import EventGate.Proofs.OrderlyTurns
import EventGate.Schedule.Drain
import Mathlib.Data.List.TakeWhile

/-! # Draining

A drain loses none of the jobs that the scheduler held when it was shut down: each of them is over,
or the drain waits for it, or a later step takes it over. This holds at every wait, whatever others
do meanwhile.
-/

namespace EventGate

namespace Clockwork

variable {β σ : Type}

/-- A job that the scheduler holds: one that runs once, or the ticker or latest run of a task. -/
def Holds (c : Clockwork β σ) (job : Nat) : Prop :=
  job ∈ c.scheduler.pending ∨ ∃ task ∈ c.scheduler.held, ∃ t, c.task? task = some t ∧
    (t.holdsTicker = true ∧ t.ticker = job ∨ t.run = some job)

theorem Orderly.lt_of_holds {c : Clockwork β σ} (h : c.Orderly) {job : Nat} (hheld : c.Holds job) :
    job < c.agenda.started := by
  rcases hheld with hpending | ⟨task, -, t, ht, ⟨-, rfl⟩ | hrun⟩
  · exact h.pending hpending
  · exact h.ticker ht
  · exact h.run ht hrun

/-- A job that a drain waits for, or that one of its steps takes over. -/
inductive Awaits (c : Clockwork β σ) (todo : Drain) (job : Nat) : Prop where
  | job {jobs : List Nat} : .jobs jobs ∈ todo → job ∈ jobs → Awaits c todo job
  | pending : .pending ∈ todo → job ∈ c.scheduler.pending → Awaits c todo job
  | ticker {task : Nat} {t : TimedTask β} : .ticker task ∈ todo → c.task? task = some t →
      t.holdsTicker = true → t.ticker = job → Awaits c todo job
  | run {task : Nat} {t : TimedTask β} : .run task ∈ todo → c.task? task = some t →
      t.run = some job → Awaits c todo job

theorem Awaits.of_scheduler {c c' : Clockwork β σ} {todo : Drain} {job : Nat}
    (h : c.Awaits todo job) (hscheduler : c'.scheduler = c.scheduler) : c'.Awaits todo job := by
  have htask (task : Nat) : c'.task? task = c.task? task := by rw [task?, task?, hscheduler]
  cases h with
  | job hmem hjob => exact .job hmem hjob
  | pending hmem hjob => exact .pending hmem (hscheduler ▸ hjob)
  | ticker hmem ht hholds hticker => exact .ticker hmem ((htask _).trans ht) hholds hticker
  | run hmem ht hrun => exact .run hmem ((htask _).trans ht) hrun

theorem not_awaits_nil (c : Clockwork β σ) (job : Nat) : ¬ c.Awaits [] job := by
  rintro (h | h | h | h) <;> cases h

/-- A drain at its beginning takes over what the scheduler holds. -/
theorem awaits_beginShutdown (c : Clockwork β σ) (job : Nat) :
    c.beginShutdown.2.Awaits c.beginShutdown.1 job ↔ c.Holds job := by
  have hmem (step : DrainStep) : step ∈ c.beginShutdown.1 ↔
      (∃ task ∈ c.scheduler.held, step = .ticker task ∨ step = .run task) ∨ step = .pending := by
    unfold beginShutdown
    rw [← List.flatMap_def, List.mem_append, List.mem_flatMap]
    simp [Drain.ofTask]
  constructor
  · rintro (@⟨jobs, h, hjob⟩ | ⟨h, hjob⟩ | @⟨task, t, h, ht, hholds, hticker⟩ |
      @⟨task, t, h, ht, hrun⟩)
    · rcases (hmem _).mp h with ⟨task, -, h | h⟩ | h <;> cases h
    · exact .inl hjob
    · rcases (hmem _).mp h with ⟨task, hheld, h | h⟩ | h <;> cases h
      exact .inr ⟨task, hheld, t, ht, .inl ⟨hholds, hticker⟩⟩
    · rcases (hmem _).mp h with ⟨task, hheld, h | h⟩ | h <;> cases h
      exact .inr ⟨task, hheld, t, ht, .inr hrun⟩
  · rintro (hjob | ⟨task, hheld, t, ht, ⟨hholds, hticker⟩ | hrun⟩)
    · exact .pending ((hmem _).mpr (.inr rfl)) hjob
    · exact .ticker ((hmem _).mpr (.inl ⟨task, hheld, .inl rfl⟩)) ht hholds hticker
    · exact .run ((hmem _).mpr (.inl ⟨task, hheld, .inr rfl⟩)) ht hrun

/-! ## Steps of a drain -/

def takeStep (c : Clockwork β σ) : DrainStep → List Nat × Clockwork β σ
  | .ticker task => (c.cancel task).takeTicker task
  | .run task => c.takeRun task
  | .jobs jobs => (jobs, c)
  | .pending => c.takePending

theorem proceed_cons (step : DrainStep) (rest : Drain) (c : Clockwork β σ) :
    proceed (step :: rest) c =
      match (c.takeStep step).2.unfinished (c.takeStep step).1 with
      | [] => proceed rest (c.takeStep step).2
      | left => (.jobs left :: rest, (c.takeStep step).2) := by
  cases step <;> rfl

theorem map_task?_of_none {c : Clockwork β σ} {task : Nat} (h : c.task? task = none) (other : Nat)
    (change : TimedTask β → TimedTask β) :
    c.task? other = (c.task? other).map fun t => if task = other then change t else t := by
  cases hother : c.task? other with
  | none => rfl
  | some t =>
    have hne : task ≠ other := by
      rintro rfl
      cases h.symm.trans hother
    rw [Option.map_some, if_neg hne]

theorem task?_cancel (c : Clockwork β σ) (task other : Nat) :
    (c.cancel task).task? other = (c.task? other).map fun t =>
      if task = other then { t with cancelled := true } else t := by
  unfold cancel
  cases ht : c.task? task with
  | none => exact map_task?_of_none ht other _
  | some t => exact task?_modifyTask c task other _

theorem task?_takeTicker (c : Clockwork β σ) (task other : Nat) :
    (c.takeTicker task).2.task? other = (c.task? other).map fun t =>
      if task = other then { t with holdsTicker := false } else t := by
  unfold takeTicker
  cases ht : c.task? task with
  | none => exact map_task?_of_none ht other _
  | some t => exact task?_modifyTask c task other _

theorem task?_takeRun (c : Clockwork β σ) (task other : Nat) :
    (c.takeRun task).2.task? other = (c.task? other).map fun t =>
      if task = other then { t with run := none } else t := by
  unfold takeRun
  cases ht : c.task? task with
  | none => exact map_task?_of_none ht other _
  | some t => exact task?_modifyTask c task other _

theorem tends_cancel (c : Clockwork β σ) (task : Nat) : Tends c (c.cancel task) := by
  have hmodified : Tends c (c.modifyTask task fun t => { t with cancelled := true }) :=
    .modifyTask c task fun t => ⟨rfl, rfl, rfl, .inr rfl⟩
  unfold cancel
  cases c.task? task with
  | none => exact .refl c
  | some t => exact hmodified.trans (.of_same ⟨rfl, rfl, Agenda.has_wake⟩)

theorem tends_takeStep (c : Clockwork β σ) (step : DrainStep) :
    Tends c (c.takeStep step).2 := by
  cases step with
  | ticker task =>
    refine (tends_cancel c task).trans ?_
    change Tends _ ((c.cancel task).takeTicker task).2
    unfold takeTicker
    cases (c.cancel task).task? task with
    | none => exact .refl _
    | some t => exact .modifyTask _ task fun t => ⟨rfl, rfl, rfl, .inr rfl⟩
  | run task =>
    change Tends _ (c.takeRun task).2
    unfold takeRun
    cases c.task? task with
    | none => exact .refl _
    | some t => exact .modifyTask _ task fun t => ⟨rfl, rfl, rfl, .inl rfl⟩
  | jobs jobs => exact .refl c
  | pending =>
    exact {
      started := le_rfl
      stays := id
      comes := .inl
      pending := fun h => absurd h List.not_mem_nil
      task := fun _ => rel_loses_refl _ }

/-- No step of a drain starts a job, or opens the scheduler again. -/
theorem kept_takeStep (c : Clockwork β σ) (step : DrainStep) :
    (c.takeStep step).2.agenda.started = c.agenda.started ∧
      (c.takeStep step).2.scheduler.disposed = c.scheduler.disposed := by
  cases step with
  | ticker task =>
    have hcancel : (c.cancel task).agenda.started = c.agenda.started ∧
        (c.cancel task).scheduler.disposed = c.scheduler.disposed := by
      unfold cancel
      split <;> exact ⟨rfl, rfl⟩
    change ((c.cancel task).takeTicker task).2.agenda.started = _ ∧
      ((c.cancel task).takeTicker task).2.scheduler.disposed = _
    rw [← hcancel.1, ← hcancel.2]
    unfold takeTicker
    split <;> exact ⟨rfl, rfl⟩
  | run task =>
    change (c.takeRun task).2.agenda.started = _ ∧ (c.takeRun task).2.scheduler.disposed = _
    unfold takeRun
    split <;> exact ⟨rfl, rfl⟩
  | jobs jobs => exact ⟨rfl, rfl⟩
  | pending => exact ⟨rfl, rfl⟩

theorem kept_proceed (todo : Drain) (c : Clockwork β σ) :
    (proceed todo c).2.agenda.started = c.agenda.started ∧
      (proceed todo c).2.scheduler.disposed = c.scheduler.disposed := by
  induction todo generalizing c with
  | nil => exact ⟨rfl, rfl⟩
  | cons step rest ih =>
    obtain ⟨hstarted, hdisposed⟩ := c.kept_takeStep step
    rw [proceed_cons]
    split
    · obtain ⟨hstarted', hdisposed'⟩ := ih (c.takeStep step).2
      exact ⟨hstarted'.trans hstarted, hdisposed'.trans hdisposed⟩
    · exact ⟨hstarted, hdisposed⟩

theorem Awaits.mono {c : Clockwork β σ} {todo others : Drain} {job : Nat}
    (h : c.Awaits todo job) (hsubset : todo ⊆ others) : c.Awaits others job := by
  cases h with
  | job hmem hjob => exact .job (hsubset hmem) hjob
  | pending hmem hjob => exact .pending (hsubset hmem) hjob
  | ticker hmem ht hholds hticker => exact .ticker (hsubset hmem) ht hholds hticker
  | run hmem ht hrun => exact .run (hsubset hmem) ht hrun

theorem mem_takeStep (c : Clockwork β σ) (step : DrainStep) (job : Nat) :
    job ∈ (c.takeStep step).1 ↔ c.Awaits [step] job := by
  constructor
  · intro hmem
    cases step with
    | ticker task =>
      change job ∈ ((c.cancel task).takeTicker task).1 at hmem
      unfold takeTicker at hmem
      rw [task?_cancel] at hmem
      cases ht : c.task? task with
      | none =>
        rw [ht] at hmem
        cases hmem
      | some t =>
        rw [ht, Option.map_some, if_pos rfl] at hmem
        dsimp only at hmem
        split at hmem
        · exact .ticker List.mem_cons_self ht ‹_› (List.mem_singleton.mp hmem).symm
        · cases hmem
    | run task =>
      change job ∈ (c.takeRun task).1 at hmem
      unfold takeRun at hmem
      cases ht : c.task? task with
      | none =>
        rw [ht] at hmem
        cases hmem
      | some t =>
        rw [ht] at hmem
        exact .run List.mem_cons_self ht (Option.mem_toList.mp hmem)
    | jobs jobs => exact .job List.mem_cons_self hmem
    | pending => exact .pending List.mem_cons_self hmem
  · intro h
    cases h with
    | job hmem hjob =>
      cases List.mem_singleton.mp hmem
      exact hjob
    | pending hmem hjob =>
      cases List.mem_singleton.mp hmem
      exact hjob
    | @ticker task t hmem ht hholds hticker =>
      cases List.mem_singleton.mp hmem
      change job ∈ ((c.cancel task).takeTicker task).1
      unfold takeTicker
      rw [task?_cancel, ht, Option.map_some, if_pos rfl]
      dsimp only
      rw [if_pos hholds]
      exact List.mem_singleton.mpr hticker.symm
    | @run task t hmem ht hrun =>
      cases List.mem_singleton.mp hmem
      change job ∈ (c.takeRun task).1
      unfold takeRun
      rw [ht]
      exact Option.mem_toList.mpr hrun

/-- A step lets go of what it takes over, and of nothing else. -/
theorem task?_takeStep (c : Clockwork β σ) (step : DrainStep) (task : Nat) :
    ∃ change : TimedTask β → TimedTask β,
      (c.takeStep step).2.task? task = (c.task? task).map change ∧ ∀ t,
        (change t).ticker = t.ticker ∧
        ((change t).holdsTicker = t.holdsTicker ∨
          step = .ticker task ∧ (change t).holdsTicker = false) ∧
        ((change t).run = t.run ∨ step = .run task ∧ (change t).run = none) := by
  cases step with
  | ticker other =>
    have htask := task?_takeTicker (c.cancel other) other task
    rw [task?_cancel, Option.map_map] at htask
    refine ⟨_, htask, fun t => ?_⟩
    dsimp only [Function.comp]
    split
    · subst other
      exact ⟨rfl, .inr ⟨rfl, rfl⟩, .inl rfl⟩
    · exact ⟨rfl, .inl rfl, .inl rfl⟩
  | run other =>
    refine ⟨_, task?_takeRun c other task, fun t => ?_⟩
    split
    · subst other
      exact ⟨rfl, .inl rfl, .inr ⟨rfl, rfl⟩⟩
    · exact ⟨rfl, .inl rfl, .inl rfl⟩
  | jobs jobs => exact ⟨id, Option.map_id_apply.symm, fun _ => ⟨rfl, .inl rfl, .inl rfl⟩⟩
  | pending => exact ⟨id, Option.map_id_apply.symm, fun _ => ⟨rfl, .inl rfl, .inl rfl⟩⟩

theorem pending_takeStep (c : Clockwork β σ) (step : DrainStep) :
    (c.takeStep step).2.scheduler.pending = c.scheduler.pending ∨
      step = .pending ∧ (c.takeStep step).2.scheduler.pending = [] := by
  cases step with
  | ticker task =>
    left
    have hcancel : (c.cancel task).scheduler.pending = c.scheduler.pending := by
      unfold cancel
      split <;> rfl
    change ((c.cancel task).takeTicker task).2.scheduler.pending = _
    rw [← hcancel]
    unfold takeTicker
    split <;> rfl
  | run task =>
    left
    change (c.takeRun task).2.scheduler.pending = _
    unfold takeRun
    split <;> rfl
  | jobs jobs => exact .inl rfl
  | pending => exact .inr ⟨rfl, rfl⟩

/-- What a drain awaits is taken over by its first step, or awaited by the others. -/
theorem awaits_cons (c : Clockwork β σ) (step : DrainStep) (rest : Drain) (job : Nat) :
    c.Awaits (step :: rest) job ↔
      job ∈ (c.takeStep step).1 ∨ (c.takeStep step).2.Awaits rest job := by
  rw [mem_takeStep]
  constructor
  · intro h
    cases h with
    | job hmem hjob =>
      rcases List.mem_cons.mp hmem with rfl | hmem
      · exact .inl (.job List.mem_cons_self hjob)
      · exact .inr (.job hmem hjob)
    | pending hmem hjob =>
      rcases List.mem_cons.mp hmem with rfl | hmem
      · exact .inl (.pending List.mem_cons_self hjob)
      · rcases c.pending_takeStep step with hsame | ⟨rfl, -⟩
        · exact .inr (.pending hmem (hsame ▸ hjob))
        · exact .inl (.pending List.mem_cons_self hjob)
    | @ticker task t hmem ht hholds hticker =>
      rcases List.mem_cons.mp hmem with rfl | hmem
      · exact .inl (.ticker List.mem_cons_self ht hholds hticker)
      · obtain ⟨change, htask, hchange⟩ := c.task?_takeStep step task
        obtain ⟨hsame, hkept | ⟨rfl, -⟩, -⟩ := hchange t
        · exact .inr (.ticker hmem (by rw [htask, ht]; rfl) (hkept.trans hholds)
            (hsame.trans hticker))
        · exact .inl (.ticker List.mem_cons_self ht hholds hticker)
    | @run task t hmem ht hrun =>
      rcases List.mem_cons.mp hmem with rfl | hmem
      · exact .inl (.run List.mem_cons_self ht hrun)
      · obtain ⟨change, htask, hchange⟩ := c.task?_takeStep step task
        obtain ⟨-, -, hkept | ⟨rfl, -⟩⟩ := hchange t
        · exact .inr (.run hmem (by rw [htask, ht]; rfl) (hkept.trans hrun))
        · exact .inl (.run List.mem_cons_self ht hrun)
  · rintro (h | h)
    · exact h.mono (List.cons_subset_cons _ (List.nil_subset _))
    · cases h with
      | job hmem hjob => exact .job (List.mem_cons_of_mem _ hmem) hjob
      | pending hmem hjob =>
        rcases c.pending_takeStep step with hsame | ⟨-, hnone⟩
        · exact .pending (List.mem_cons_of_mem _ hmem) (hsame ▸ hjob)
        · rw [hnone] at hjob
          cases hjob
      | @ticker task t' hmem ht' hholds hticker =>
        obtain ⟨change, htask, hchange⟩ := c.task?_takeStep step task
        rw [htask] at ht'
        obtain ⟨t, ht, rfl⟩ := Option.map_eq_some_iff.mp ht'
        obtain ⟨hsame, hkept | ⟨-, hlost⟩, -⟩ := hchange t
        · exact .ticker (List.mem_cons_of_mem _ hmem) ht (hkept.symm.trans hholds)
            (hsame.symm.trans hticker)
        · rw [hlost] at hholds
          cases hholds
      | @run task t' hmem ht' hrun =>
        obtain ⟨change, htask, hchange⟩ := c.task?_takeStep step task
        rw [htask] at ht'
        obtain ⟨t, ht, rfl⟩ := Option.map_eq_some_iff.mp ht'
        obtain ⟨-, -, hkept | ⟨-, hlost⟩⟩ := hchange t
        · exact .run (List.mem_cons_of_mem _ hmem) ht (hkept.symm.trans hrun)
        · rw [hlost] at hrun
          cases hrun

/-! ## Waits of a drain -/

/-- A drain covers some jobs, from which it waits for no others but those that began since: each of
them is over, or it is awaited. -/
structure Covers (c : Clockwork β σ) (todo : Drain) (held : Nat → Prop) (since : Nat) : Prop where
  covered {job} : held job → c.Over job ∨ c.Awaits todo job
  known {job} : c.Awaits todo job → job < c.agenda.started ∧ (held job ∨ since ≤ job)

theorem Covers.covers_rest {held : Nat → Prop} {since : Nat} {c after : Clockwork β σ}
    {todo rest : Drain} (h : c.Covers todo held since) (htends : Tends c after)
    (htaken : ∀ {job}, c.Awaits todo job → after.agenda.isOver job = true ∨ after.Awaits rest job)
    (hawaits : ∀ {job}, after.Awaits rest job → c.Awaits todo job) :
    after.Covers rest held since where
  covered hheld := by
    rcases h.covered hheld with hover | hawait
    · exact .inl (htends.stays_over hover)
    · exact (htaken hawait).imp_left fun hover =>
        ⟨(h.known hawait).1.trans_le htends.started, hover⟩
  known hawait :=
    (h.known (hawaits hawait)).imp_left fun hlt => hlt.trans_le htends.started

/-- As far as a drain goes without waiting, it goes on covering its jobs. It is at its end, or waits
for a job that is not over. -/
theorem Covers.proceed {held : Nat → Prop} {since : Nat} {c : Clockwork β σ} {todo : Drain}
    (h : c.Covers todo held since) :
    Tends c (proceed todo c).2 ∧ (proceed todo c).2.Covers (proceed todo c).1 held since ∧
      match awaited? (proceed todo c).1 with
      | none => (proceed todo c).1 = []
      | some job => (proceed todo c).2.agenda.isOver job = false ∧
          (proceed todo c).2.Awaits (proceed todo c).1 job := by
  induction todo generalizing c with
  | nil => exact ⟨.refl c, h, rfl⟩
  | cons step rest ih =>
    have htends := c.tends_takeStep step
    have hawaits := c.awaits_cons step rest
    rw [proceed_cons]
    generalize c.takeStep step = taken at htends hawaits ⊢
    obtain ⟨jobs, after⟩ := taken
    dsimp only at htends hawaits ⊢
    have hjobs {job : Nat} (hmem : job ∈ jobs) :
        after.agenda.isOver job = true ∨ job ∈ after.unfinished jobs := by
      rw [← jobs.takeWhile_append_dropWhile (p := after.agenda.isOver)] at hmem
      exact (List.mem_append.mp hmem).imp_left List.mem_takeWhile_imp
    cases hleft : after.unfinished jobs with
    | nil =>
      have hrest : after.Covers rest held since := by
        refine h.covers_rest htends (fun hawait => ?_) fun hawait => (hawaits _).mpr (.inr hawait)
        refine ((hawaits _).mp hawait).imp_left fun hmem => (hjobs hmem).resolve_right ?_
        rw [hleft]
        exact List.not_mem_nil
      obtain ⟨htends', hcovers, hnext⟩ := ih hrest
      exact ⟨htends.trans htends', hcovers, hnext⟩
    | cons job left =>
      have hmem {other : Nat} : after.Awaits (.jobs (job :: left) :: rest) other ↔
          other ∈ job :: left ∨ after.Awaits rest other :=
        after.awaits_cons (.jobs (job :: left)) rest other
      have hsubset : job :: left ⊆ jobs := hleft ▸ (List.dropWhile_sublist _).subset
      refine ⟨htends, h.covers_rest htends (fun hawait => ?_) fun hawait => ?_, ?_,
        hmem.mpr (.inl List.mem_cons_self)⟩
      · rcases (hawaits _).mp hawait with hjob | hjob
        · exact (hjobs hjob).imp_right fun hjob => hmem.mpr (.inl (hleft ▸ hjob))
        · exact .inr (hmem.mpr (.inr hjob))
      · exact (hawaits _).mpr ((hmem.mp hawait).imp_left fun hjob => hsubset hjob)
      · have hhead := List.head?_dropWhile_not after.agenda.isOver jobs
        unfold unfinished at hleft
        rw [hleft] at hhead
        exact hhead

/-- Whatever others do at a wait, the drain goes on covering its jobs. -/
theorem Covers.calm {held : Nat → Prop} {since : Nat} {c c' : Clockwork β σ} {todo : Drain}
    (h : c.Covers todo held since) (hsince : since ≤ c.agenda.started) (hcalm : Calm c c') :
    c'.Covers todo held since where
  covered hheld := by
    rcases h.covered hheld with hover | hawait
    · exact .inl (hcalm.stays_over hover)
    · cases hawait with
      | job hmem hjob => exact .inr (.job hmem hjob)
      | pending hmem hjob => exact .inr (.pending hmem (hcalm.pending ▸ hjob))
      | @ticker task t hmem ht hholds hticker =>
        obtain ⟨t', ht', hsame, hkept, -⟩ := exists_of_rel_some_left (hcalm.task task) ht
        exact .inr (.ticker hmem ht' (hkept.trans hholds) (hsame.trans hticker))
      | @run task t hmem ht hrun =>
        obtain ⟨t', ht', -, -, -, hsame | ⟨new, -, -, -, hold⟩⟩ :=
          exists_of_rel_some_left (hcalm.task task) ht
        · exact .inr (.run hmem ht' (hsame.trans hrun))
        · exact .inl (hold _ hrun)
  known {job} hawait := by
    have hold (hawait : c.Awaits todo job) :
        job < c'.agenda.started ∧ (held job ∨ since ≤ job) :=
      (h.known hawait).imp_left fun hlt => hlt.trans_le hcalm.started
    cases hawait with
    | job hmem hjob => exact hold (.job hmem hjob)
    | pending hmem hjob => exact hold (.pending hmem (hcalm.pending ▸ hjob))
    | @ticker task t' hmem ht' hholds hticker =>
      obtain ⟨t, ht, hsame, hkept, -⟩ := exists_of_rel_some_right (hcalm.task task) ht'
      exact hold (.ticker hmem ht (hkept.symm.trans hholds) (hsame.symm.trans hticker))
    | @run task t' hmem ht' hrun =>
      obtain ⟨t, ht, -, -, -, hsame | ⟨new, hnew, hge, hlt, -⟩⟩ :=
        exists_of_rel_some_right (hcalm.task task) ht'
      · exact hold (.run hmem ht (hsame.symm.trans hrun))
      · cases hnew.symm.trans hrun
        exact ⟨hlt, .inr (hsince.trans hge)⟩

end Clockwork

end EventGate
