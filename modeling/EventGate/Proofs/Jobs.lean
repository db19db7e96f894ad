import EventGate.Proofs.Turns
import Mathlib.Order.Nat

/-! # Jobs

Which jobs are on the agenda, whatever they wait for. Jobs come with numbers that nobody had before,
so a job that is over stays over; and at most one run of a task is on the agenda at a time.
-/

namespace EventGate

namespace Agenda

variable {ω : Type} (agenda : Agenda ω)

/-- A job is on the agenda with its work, whatever it waits for. -/
def Has (job : Nat) (dropped : Bool) (work : ω) : Prop :=
  ∃ due, ⟨job, due, dropped, work⟩ ∈ agenda.entries

variable {agenda} {job other : Nat} {dropped : Bool} {work new : ω}

theorem Has.of_mem {entry : JobEntry ω} (h : entry ∈ agenda.entries) :
    agenda.Has entry.job entry.dropped entry.work :=
  ⟨entry.due, h⟩

theorem isOver_iff :
    agenda.isOver job = true ↔ ∀ dropped work, ¬ agenda.Has job dropped work := by
  unfold isOver Has
  rw [Bool.not_eq_true', List.any_eq_false]
  constructor
  · rintro h dropped work ⟨due, hmem⟩
    exact h _ hmem (beq_self_eq_true job)
  · rintro h ⟨job, due, dropped, work⟩ hmem hjob
    cases beq_iff_eq.mp hjob
    exact h dropped work ⟨due, hmem⟩

@[simp] theorem has_wakeAll (which : JobEntry ω → Bool) :
    (agenda.wakeAll which).Has job dropped work ↔ agenda.Has job dropped work := by
  unfold Has wakeAll
  simp only [List.mem_append, List.mem_filter, List.mem_map]
  constructor
  · rintro ⟨due, ⟨hmem, -⟩ | ⟨entry, ⟨hmem, -⟩, heq⟩⟩
    · exact ⟨due, hmem⟩
    · cases heq
      exact ⟨entry.due, hmem⟩
  · rintro ⟨due, hmem⟩
    cases hwoken : due != .turn && which ⟨job, due, dropped, work⟩ with
    | true => exact ⟨.turn, .inr ⟨_, ⟨hmem, hwoken⟩, rfl⟩⟩
    | false => exact ⟨due, .inl ⟨hmem, congrArg not hwoken⟩⟩

@[simp] theorem has_start :
    (agenda.start new).2.Has job dropped work ↔
      agenda.Has job dropped work ∨ job = agenda.started ∧ dropped = false ∧ work = new := by
  unfold Has start
  simp only [List.mem_append, List.mem_singleton, JobEntry.mk.injEq]
  constructor
  · rintro ⟨due, hmem | ⟨hjob, -, hdropped, hwork⟩⟩
    · exact .inl ⟨due, hmem⟩
    · exact .inr ⟨hjob, hdropped, hwork⟩
  · rintro (⟨due, hmem⟩ | ⟨hjob, hdropped, hwork⟩)
    · exact ⟨due, .inl hmem⟩
    · exact ⟨.turn, .inr ⟨hjob, rfl, hdropped, hwork⟩⟩

@[simp] theorem has_suspend {due : Due} :
    (agenda.suspend other due new).Has job dropped work ↔
      agenda.Has job dropped work ∨ job = other ∧ dropped = false ∧ work = new := by
  unfold Has suspend
  simp only [List.mem_append, List.mem_singleton, JobEntry.mk.injEq]
  constructor
  · rintro ⟨due, hmem | ⟨hjob, -, hdropped, hwork⟩⟩
    · exact .inl ⟨due, hmem⟩
    · exact .inr ⟨hjob, hdropped, hwork⟩
  · rintro (⟨due, hmem⟩ | ⟨hjob, hdropped, hwork⟩)
    · exact ⟨due, .inl hmem⟩
    · exact ⟨due, .inr ⟨hjob, rfl, hdropped, hwork⟩⟩

@[simp] theorem has_without :
    (agenda.without other).Has job dropped work ↔ agenda.Has job dropped work ∧ job ≠ other := by
  simp [Has, without]

@[simp] theorem has_finish :
    (agenda.finish other).Has job dropped work ↔ agenda.Has job dropped work :=
  has_wakeAll _

@[simp] theorem has_wake :
    (agenda.wake other).Has job dropped work ↔ agenda.Has job dropped work :=
  has_wakeAll _

@[simp] theorem has_answerDisk :
    agenda.answerDisk.Has job dropped work ↔ agenda.Has job dropped work :=
  has_wakeAll _

@[simp] theorem has_moveTo {time : Nat} :
    (agenda.moveTo time).Has job dropped work ↔ agenda.Has job dropped work :=
  has_wakeAll _

end Agenda

def Work.runOf? {β : Type} : Work β → Option Nat
  | body task _ => task
  | _ => none

namespace Clockwork

variable {β σ : Type}

def Over (c : Clockwork β σ) (job : Nat) : Prop :=
  job < c.agenda.started ∧ c.agenda.isOver job = true

/-! ## Orderly jobs -/

/-- Nothing is dropped, and numbers of jobs are used once. While a run of a task is on the agenda it
has the guard of the task, so it is the only one; and the job of the latest run is not used for
anything else. -/
structure Orderly (c : Clockwork β σ) : Prop where
  undropped {job dropped work} : c.agenda.Has job dropped work → dropped = false
  known {job dropped work} : c.agenda.Has job dropped work → job < c.agenda.started
  guarded {job dropped work task} : c.agenda.Has job dropped work → work.runOf? = some task →
    ∃ t, c.task? task = some t ∧ t.guard = .running
  single {job dropped work other dropped' work' task} : c.agenda.Has job dropped work →
    c.agenda.Has other dropped' work' → work.runOf? = some task → work'.runOf? = some task →
      job = other
  run {task t job} : c.task? task = some t → t.run = some job → job < c.agenda.started
  latest {task t job dropped work} : c.task? task = some t → t.run = some job →
    c.agenda.Has job dropped work → work.runOf? = some task
  ticker {task t} : c.task? task = some t → t.ticker < c.agenda.started
  pending {job} : job ∈ c.scheduler.pending → job < c.agenda.started

theorem orderly_create (state : σ) : (create state : Clockwork β σ).Orderly := by
  constructor <;> simp [create, Agenda.create, Agenda.Has, Scheduler.create, task?]

theorem Orderly.over_of_idle {c : Clockwork β σ} (h : c.Orderly) {task : Nat} {t : TimedTask β}
    {job : Nat} (ht : c.task? task = some t) (hidle : t.guard = .idle) (hrun : t.run = some job) :
    c.Over job := by
  refine ⟨h.run ht hrun, Agenda.isOver_iff.mpr fun dropped work hhas => ?_⟩
  obtain ⟨t', ht', hguard⟩ := h.guarded hhas (h.latest ht hrun hhas)
  cases ht.symm.trans ht'
  rw [hidle] at hguard
  cases hguard

/-- A job that has its turn, and is off the agenda for that time. -/
structure Away (c : Clockwork β σ) (job : Nat) (work : Work β) : Prop where
  off {dropped other} : ¬ c.agenda.Has job dropped other
  known : job < c.agenda.started
  guarded {task} : work.runOf? = some task → ∃ t, c.task? task = some t ∧ t.guard = .running
  alone {other dropped work' task} : work.runOf? = some task →
    c.agenda.Has other dropped work' → work'.runOf? ≠ some task
  latest {task t} : c.task? task = some t → t.run = some job → work.runOf? = some task

abbrev without (c : Clockwork β σ) (job : Nat) : Clockwork β σ :=
  { c with agenda := c.agenda.without job }

def close (c : Clockwork β σ) (job : Nat) : Clockwork β σ :=
  { c with agenda := c.agenda.finish job }

theorem Orderly.without {c : Clockwork β σ} (h : c.Orderly) (job : Nat) :
    (c.without job).Orderly where
  undropped hhas := h.undropped (Agenda.has_without.mp hhas).1
  known hhas := h.known (Agenda.has_without.mp hhas).1
  guarded hhas := h.guarded (Agenda.has_without.mp hhas).1
  single hhas hother := h.single (Agenda.has_without.mp hhas).1 (Agenda.has_without.mp hother).1
  run := h.run
  latest ht hrun hhas := h.latest ht hrun (Agenda.has_without.mp hhas).1
  ticker := h.ticker
  pending := h.pending

theorem Orderly.away {c : Clockwork β σ} (h : c.Orderly) {job : Nat} {dropped : Bool}
    {work : Work β} (hhas : c.agenda.Has job dropped work) : (c.without job).Away job work where
  off hother := (Agenda.has_without.mp hother).2 rfl
  known := h.known hhas
  guarded := h.guarded hhas
  alone hrun hother hrun' :=
    (Agenda.has_without.mp hother).2 (h.single (Agenda.has_without.mp hother).1 hhas hrun' hrun)
  latest ht hrun := h.latest ht hrun hhas

/-! ## Tending jobs -/

theorem task?_modifyTask (c : Clockwork β σ) (task other : Nat)
    (change : TimedTask β → TimedTask β) :
    (c.modifyTask task change).task? other =
      (c.task? other).map fun t => if task = other then change t else t :=
  List.getElem?_modify ..

structure SameJobs (c c' : Clockwork β σ) : Prop where
  scheduler : c'.scheduler = c.scheduler
  started : c'.agenda.started = c.agenda.started
  has {job dropped work} : c'.agenda.Has job dropped work ↔ c.agenda.Has job dropped work

namespace SameJobs

theorem refl (c : Clockwork β σ) : SameJobs c c :=
  ⟨rfl, rfl, Iff.rfl⟩

theorem trans {c c' c'' : Clockwork β σ} (h : SameJobs c c') (h' : SameJobs c' c'') :
    SameJobs c c'' :=
  ⟨h'.scheduler.trans h.scheduler, h'.started.trans h.started, h'.has.trans h.has⟩

theorem task?_eq {c c' : Clockwork β σ} (h : SameJobs c c') (task : Nat) :
    c'.task? task = c.task? task := by
  rw [task?, task?, h.scheduler]

theorem isOver_eq {c c' : Clockwork β σ} (h : SameJobs c c') (job : Nat) :
    c'.agenda.isOver job = c.agenda.isOver job := by
  rw [Bool.eq_iff_iff, Agenda.isOver_iff, Agenda.isOver_iff]
  exact forall_congr' fun dropped => forall_congr' fun work => not_congr h.has

end SameJobs

/-- What a task may lose while it keeps its guard. -/
def Loses (t t' : TimedTask β) : Prop :=
  t'.guard = t.guard ∧ t'.ticker = t.ticker ∧ t'.body = t.body ∧ (t'.run = none ∨ t'.run = t.run)

/-- What is done to jobs besides the turns of the scheduler: jobs begin that are no runs, and what
is held of tasks is let go. -/
structure Tends (c c' : Clockwork β σ) : Prop where
  started : c.agenda.started ≤ c'.agenda.started
  stays {job dropped work} : c.agenda.Has job dropped work → c'.agenda.Has job dropped work
  comes {job dropped work} : c'.agenda.Has job dropped work → c.agenda.Has job dropped work ∨
    c.agenda.started ≤ job ∧ job < c'.agenda.started ∧ dropped = false ∧ work.runOf? = none
  pending {job} : job ∈ c'.scheduler.pending →
    job ∈ c.scheduler.pending ∨ c.agenda.started ≤ job ∧ job < c'.agenda.started
  task (task : Nat) : Option.Rel Loses (c.task? task) (c'.task? task)

theorem exists_of_rel_some_left {α : Type} {r : α → α → Prop} {a? b? : Option α} {a : α}
    (h : Option.Rel r a? b?) (ha : a? = some a) : ∃ b, b? = some b ∧ r a b := by
  cases h with
  | none => cases ha
  | some hr =>
    cases ha
    exact ⟨_, rfl, hr⟩

theorem exists_of_rel_some_right {α : Type} {r : α → α → Prop} {a? b? : Option α} {b : α}
    (h : Option.Rel r a? b?) (hb : b? = some b) : ∃ a, a? = some a ∧ r a b := by
  cases h with
  | none => cases hb
  | some hr =>
    cases hb
    exact ⟨_, rfl, hr⟩

theorem Loses.refl (t : TimedTask β) : Loses t t :=
  ⟨rfl, rfl, rfl, .inr rfl⟩

theorem rel_loses_refl (t : Option (TimedTask β)) : Option.Rel Loses t t := by
  cases t with
  | none => exact .none
  | some t => exact .some (.refl t)

namespace Tends

theorem of_same {c c' : Clockwork β σ} (h : SameJobs c c') : Tends c c' where
  started := h.started.ge
  stays := h.has.mpr
  comes hhas := .inl (h.has.mp hhas)
  pending hmem := .inl (h.scheduler ▸ hmem)
  task task := by
    rw [h.task?_eq]
    exact rel_loses_refl _

theorem refl (c : Clockwork β σ) : Tends c c :=
  of_same (.refl c)

theorem trans {c c' c'' : Clockwork β σ} (h : Tends c c') (h' : Tends c' c'') : Tends c c'' where
  started := h.started.trans h'.started
  stays hhas := h'.stays (h.stays hhas)
  comes hhas := by
    rcases h'.comes hhas with hhas | ⟨hge, hlt, hnew⟩
    · exact (h.comes hhas).imp_right fun ⟨hge, hlt, hnew⟩ => ⟨hge, hlt.trans_le h'.started, hnew⟩
    · exact .inr ⟨h.started.trans hge, hlt, hnew⟩
  pending hmem := by
    rcases h'.pending hmem with hmem | ⟨hge, hlt⟩
    · exact (h.pending hmem).imp_right fun ⟨hge, hlt⟩ => ⟨hge, hlt.trans_le h'.started⟩
    · exact .inr ⟨h.started.trans hge, hlt⟩
  task task := by
    have hrel := h.task task
    have hrel' := h'.task task
    generalize c.task? task = t, c'.task? task = t', c''.task? task = t'' at hrel hrel' ⊢
    cases hrel with
    | none => exact hrel'
    | some hloses =>
      cases hrel' with
      | some hloses' =>
        obtain ⟨hguard, hticker, hbody, hrun⟩ := hloses
        obtain ⟨hguard', hticker', hbody', hrun'⟩ := hloses'
        refine .some ⟨hguard'.trans hguard, hticker'.trans hticker, hbody'.trans hbody, ?_⟩
        rcases hrun' with hrun' | hrun'
        · exact .inl hrun'
        · exact hrun.imp hrun'.trans hrun'.trans

theorem close (c : Clockwork β σ) (job : Nat) : Tends c (c.close job) :=
  of_same ⟨rfl, rfl, Agenda.has_finish⟩

theorem modifyTask (c : Clockwork β σ) (task : Nat) {change : TimedTask β → TimedTask β}
    (h : ∀ t, Loses t (change t)) : Tends c (c.modifyTask task change) where
  started := le_rfl
  stays := id
  comes := .inl
  pending := .inl
  task other := by
    rw [task?_modifyTask]
    cases c.task? other with
    | none => exact .none
    | some t =>
      refine .some ?_
      split
      · exact h t
      · exact .refl t

theorem spawn (c : Clockwork β σ) (body : β) : Tends c (c.spawn none body).2 where
  started := Nat.le_succ _
  stays hhas := Agenda.has_start.mpr (.inl hhas)
  comes hhas := by
    rcases Agenda.has_start.mp hhas with hhas | ⟨rfl, rfl, rfl⟩
    · exact .inl hhas
    · exact .inr ⟨le_rfl, Nat.lt_succ_self _, rfl, rfl⟩
  pending := .inl
  task task := rel_loses_refl _

variable {c c' : Clockwork β σ} (h : Tends c c')

include h

theorem task_of {task : Nat} {t' : TimedTask β} (ht' : c'.task? task = some t') :
    ∃ t, c.task? task = some t ∧ Loses t t' :=
  exists_of_rel_some_right (h.task task) ht'

theorem task_to {task : Nat} {t : TimedTask β} (ht : c.task? task = some t) :
    ∃ t', c'.task? task = some t' ∧ Loses t t' :=
  exists_of_rel_some_left (h.task task) ht

theorem run_of {task : Nat} {t' : TimedTask β} {job : Nat} (ht' : c'.task? task = some t')
    (hrun : t'.run = some job) : ∃ t, c.task? task = some t ∧ t.run = some job := by
  obtain ⟨t, ht, -, -, -, hlost | hkept⟩ := h.task_of ht'
  · rw [hlost] at hrun
    cases hrun
  · exact ⟨t, ht, hkept.symm.trans hrun⟩

theorem has_of_runOf? {job : Nat} {dropped : Bool} {work : Work β} {task : Nat}
    (hhas : c'.agenda.Has job dropped work) (hrun : work.runOf? = some task) :
    c.agenda.Has job dropped work := by
  rcases h.comes hhas with hhas | ⟨-, -, -, hnone⟩
  · exact hhas
  · rw [hnone] at hrun
    cases hrun

theorem has_of_lt {job : Nat} {dropped : Bool} {work : Work β}
    (hhas : c'.agenda.Has job dropped work) (hlt : job < c.agenda.started) :
    c.agenda.Has job dropped work :=
  (h.comes hhas).resolve_right fun hnew => Nat.not_le.mpr hlt hnew.1

theorem has_of_started (hstarted : c'.agenda.started = c.agenda.started) {job : Nat}
    {dropped : Bool} {work : Work β} (hhas : c'.agenda.Has job dropped work) :
    c.agenda.Has job dropped work :=
  (h.comes hhas).resolve_right fun hnew =>
    Nat.not_lt.mpr hnew.1 (hstarted ▸ hnew.2.1)

theorem stays_over {job : Nat} (hover : c.Over job) : c'.Over job :=
  ⟨hover.1.trans_le h.started, Agenda.isOver_iff.mpr fun _ _ hhas =>
    Agenda.isOver_iff.mp hover.2 _ _ (h.has_of_lt hhas hover.1)⟩

theorem orderly (horderly : c.Orderly) : c'.Orderly where
  undropped hhas := by
    rcases h.comes hhas with hhas | ⟨-, -, hdropped, -⟩
    · exact horderly.undropped hhas
    · exact hdropped
  known hhas := by
    rcases h.comes hhas with hhas | ⟨-, hlt, -⟩
    · exact (horderly.known hhas).trans_le h.started
    · exact hlt
  guarded hhas hrun := by
    obtain ⟨t, ht, hguard⟩ := horderly.guarded (h.has_of_runOf? hhas hrun) hrun
    obtain ⟨t', ht', hsame, -⟩ := h.task_to ht
    exact ⟨t', ht', hsame.trans hguard⟩
  single hhas hother hrun hrun' :=
    horderly.single (h.has_of_runOf? hhas hrun) (h.has_of_runOf? hother hrun') hrun hrun'
  run ht' hrun := by
    obtain ⟨t, ht, hrun⟩ := h.run_of ht' hrun
    exact (horderly.run ht hrun).trans_le h.started
  latest ht' hrun hhas := by
    obtain ⟨t, ht, hrun⟩ := h.run_of ht' hrun
    exact horderly.latest ht hrun (h.has_of_lt hhas (horderly.run ht hrun))
  ticker ht' := by
    obtain ⟨t, ht, -, hticker, -⟩ := h.task_of ht'
    exact hticker ▸ (horderly.ticker ht).trans_le h.started
  pending hmem := by
    rcases h.pending hmem with hmem | ⟨-, hlt⟩
    · exact (horderly.pending hmem).trans_le h.started
    · exact hlt

theorem away {job : Nat} {work : Work β} (haway : c.Away job work) : c'.Away job work where
  off hhas := haway.off (h.has_of_lt hhas haway.known)
  known := haway.known.trans_le h.started
  guarded hrun := by
    obtain ⟨t, ht, hguard⟩ := haway.guarded hrun
    obtain ⟨t', ht', hsame, -⟩ := h.task_to ht
    exact ⟨t', ht', hsame.trans hguard⟩
  alone hrun hother hrun' := haway.alone hrun (h.has_of_runOf? hother hrun') hrun'
  latest ht' hrun := by
    obtain ⟨t, ht, hrun⟩ := h.run_of ht' hrun
    exact haway.latest ht hrun

end Tends

end Clockwork

end EventGate
