import EventGate.Proofs.Jobs

/-! # Turns of orderly jobs

A turn keeps jobs orderly: a ticker begins a run only if the one before is over, and the job of a
run releases its guard at its end.
-/

namespace EventGate

namespace Clockwork

variable {β σ : Type}

/-! ## Runs -/

def beginRun (c : Clockwork β σ) (task : Nat) (body : β) : Clockwork β σ :=
  (c.spawn (some task) body).2.modifyTask task fun t =>
    { t with guard := .running, run := some c.agenda.started }

/-- A ticker begins a run if it is not cancelled and the guard is idle, and goes on ticking unless
it is cancelled. -/
theorem tick_cases (c : Clockwork β σ) (task : Nat) :
    ((c.tick task).1 = c ∨ ∃ t, c.task? task = some t ∧ t.guard = .idle ∧
      (c.tick task).1 = c.beginRun task t.body) ∧
    ((c.tick task).2 = none ∨ ∃ due, (c.tick task).2 = some (due, .tick task)) := by
  unfold tick
  cases ht : c.task? task with
  | none => exact ⟨.inl rfl, .inl rfl⟩
  | some t =>
    dsimp only
    split
    · exact ⟨.inl rfl, .inl rfl⟩
    · refine ⟨?_, .inr ⟨_, rfl⟩⟩
      cases hguard : t.guard with
      | idle => exact .inr ⟨t, rfl, hguard, rfl⟩
      | running => exact .inl rfl

theorem rest_cases (c : Clockwork β σ) (task delay : Nat) :
    ((c.rest task delay).1 = c ∨ ∃ t, c.task? task = some t ∧ t.guard = .idle ∧
      (c.rest task delay).1 = c.beginRun task t.body) ∧
    ((c.rest task delay).2 = none ∨ ∃ due, (c.rest task delay).2 = some (due, .tick task)) := by
  have htick := c.tick_cases task
  unfold rest
  split
  · exact ⟨.inl rfl, .inl rfl⟩
  · split
    · exact ⟨.inl rfl, .inl rfl⟩
    · split
      · exact htick
      · exact ⟨.inl rfl, .inr ⟨_, rfl⟩⟩

section BeginRun

variable {c : Clockwork β σ} {task : Nat} {body : β}

theorem has_beginRun {job : Nat} {dropped : Bool} {work : Work β} :
    (c.beginRun task body).agenda.Has job dropped work ↔
      c.agenda.Has job dropped work ∨
        job = c.agenda.started ∧ dropped = false ∧ work = .body (some task) body :=
  Agenda.has_start

theorem task?_beginRun (other : Nat) :
    (c.beginRun task body).task? other = (c.task? other).map fun t =>
      if task = other then { t with guard := .running, run := some c.agenda.started } else t :=
  task?_modifyTask ..

variable {t : TimedTask β} (h : c.Orderly) (ht : c.task? task = some t) (hidle : t.guard = .idle)

include h ht hidle

theorem not_has_of_idle {job : Nat} {dropped : Bool} {work : Work β}
    (hhas : c.agenda.Has job dropped work) : work.runOf? ≠ some task := by
  intro hrun
  obtain ⟨t', ht', hguard⟩ := h.guarded hhas hrun
  cases ht.symm.trans ht'
  rw [hidle] at hguard
  cases hguard

theorem Orderly.beginRun : (c.beginRun task body).Orderly := by
  have hnew {job : Nat} {dropped : Bool} {work : Work β} (hlt : job < c.agenda.started)
      (hhas : (c.beginRun task body).agenda.Has job dropped work) :
      c.agenda.Has job dropped work :=
    (has_beginRun.mp hhas).resolve_right fun hnew => hlt.ne hnew.1
  have htask {other : Nat} {t' : TimedTask β}
      (ht' : (c.beginRun task body).task? other = some t') :
      ∃ t, c.task? other = some t ∧ t'.ticker = t.ticker ∧
        (t'.run = t.run ∨ task = other ∧ t'.run = some c.agenda.started) := by
    rw [task?_beginRun] at ht'
    obtain ⟨t, ht, rfl⟩ := Option.map_eq_some_iff.mp ht'
    refine ⟨t, ht, ?_⟩
    split
    · exact ⟨rfl, .inr ⟨‹_›, rfl⟩⟩
    · exact ⟨rfl, .inl rfl⟩
  constructor
  case undropped =>
    intro job dropped work hhas
    rcases has_beginRun.mp hhas with hhas | ⟨-, hdropped, -⟩
    · exact h.undropped hhas
    · exact hdropped
  case known =>
    intro job dropped work hhas
    rcases has_beginRun.mp hhas with hhas | ⟨rfl, -⟩
    · exact (h.known hhas).trans (Nat.lt_succ_self _)
    · exact Nat.lt_succ_self _
  case guarded =>
    intro job dropped work other hhas hrun
    rw [task?_beginRun]
    rcases has_beginRun.mp hhas with hhas | ⟨-, -, rfl⟩
    · obtain ⟨t', ht', hguard⟩ := h.guarded hhas hrun
      have hother : task ≠ other := by
        rintro rfl
        exact not_has_of_idle h ht hidle hhas hrun
      exact ⟨t', by rw [ht', Option.map_some, if_neg hother], hguard⟩
    · cases hrun
      exact ⟨_, by rw [ht, Option.map_some, if_pos rfl], rfl⟩
  case single =>
    intro job dropped work other dropped' work' other' hhas hhas' hrun hrun'
    rcases has_beginRun.mp hhas with hold | ⟨rfl, -, rfl⟩ <;>
      rcases has_beginRun.mp hhas' with hold' | ⟨rfl, -, rfl⟩
    · exact h.single hold hold' hrun hrun'
    · cases hrun'
      exact absurd hrun (not_has_of_idle h ht hidle hold)
    · cases hrun
      exact absurd hrun' (not_has_of_idle h ht hidle hold')
    · rfl
  case run =>
    intro other t' job ht' hrun
    obtain ⟨t, ht, -, hsame | ⟨-, hnow⟩⟩ := htask ht'
    · exact (h.run ht (hsame.symm.trans hrun)).trans (Nat.lt_succ_self _)
    · cases hnow.symm.trans hrun
      exact Nat.lt_succ_self _
  case latest =>
    intro other t' job dropped work ht' hrun hhas
    obtain ⟨t, ht, -, hsame | ⟨rfl, hnow⟩⟩ := htask ht'
    · have hrun := hsame.symm.trans hrun
      exact h.latest ht hrun (hnew (h.run ht hrun) hhas)
    · cases hnow.symm.trans hrun
      rcases has_beginRun.mp hhas with hhas | ⟨-, -, rfl⟩
      · exact absurd (h.known hhas) (lt_irrefl _)
      · rfl
  case ticker =>
    intro other t' ht'
    obtain ⟨t, ht, hticker, -⟩ := htask ht'
    exact hticker ▸ (h.ticker ht).trans (Nat.lt_succ_self _)
  case pending =>
    intro job hmem
    exact (h.pending hmem).trans (Nat.lt_succ_self _)

omit h ht hidle in
theorem Away.beginRun {job : Nat} {work : Work β} (haway : c.Away job work)
    (hwork : work.runOf? = none) : (c.beginRun task body).Away job work where
  off hhas := by
    rcases has_beginRun.mp hhas with hhas | ⟨rfl, -⟩
    · exact haway.off hhas
    · exact lt_irrefl _ haway.known
  known := haway.known.trans (Nat.lt_succ_self _)
  guarded hrun := by
    rw [hwork] at hrun
    cases hrun
  alone hrun := by
    rw [hwork] at hrun
    cases hrun
  latest ht' hrun := by
    rw [task?_beginRun] at ht'
    obtain ⟨t, ht, rfl⟩ := Option.map_eq_some_iff.mp ht'
    split at hrun
    · cases hrun
      exact absurd haway.known (lt_irrefl _)
    · exact haway.latest ht hrun

end BeginRun

/-! ## The end of a turn -/

theorem Orderly.suspend {c : Clockwork β σ} (h : c.Orderly) {job : Nat} {work after : Work β}
    (haway : c.Away job work) (hkind : after.runOf? = work.runOf?) (due : Due) :
    ({ c with agenda := c.agenda.suspend job due after } : Clockwork β σ).Orderly where
  undropped hhas := by
    rcases Agenda.has_suspend.mp hhas with hhas | ⟨-, hdropped, -⟩
    · exact h.undropped hhas
    · exact hdropped
  known hhas := by
    rcases Agenda.has_suspend.mp hhas with hhas | ⟨rfl, -⟩
    · exact h.known hhas
    · exact haway.known
  guarded hhas hrun := by
    rcases Agenda.has_suspend.mp hhas with hhas | ⟨-, -, rfl⟩
    · exact h.guarded hhas hrun
    · exact haway.guarded (hkind ▸ hrun)
  single hhas hhas' hrun hrun' := by
    rcases Agenda.has_suspend.mp hhas with hold | ⟨rfl, -, rfl⟩ <;>
      rcases Agenda.has_suspend.mp hhas' with hold' | ⟨rfl, -, rfl⟩
    · exact h.single hold hold' hrun hrun'
    · exact absurd hrun (haway.alone (hkind ▸ hrun') hold)
    · exact absurd hrun' (haway.alone (hkind ▸ hrun) hold')
    · rfl
  run := h.run
  latest ht hrun hhas := by
    rcases Agenda.has_suspend.mp hhas with hhas | ⟨rfl, -, rfl⟩
    · exact h.latest ht hrun hhas
    · exact hkind.trans (haway.latest ht hrun)
  ticker := h.ticker
  pending := h.pending

theorem Orderly.releaseGuard {c : Clockwork β σ} (h : c.Orderly) {job : Nat} {work : Work β}
    (haway : c.Away job work) : (c.releaseGuard work.runOf?).Orderly := by
  cases hrunOf : work.runOf? with
  | none => exact h
  | some task =>
    have htask {other : Nat} {t' : TimedTask β}
        (ht' : (c.releaseGuard (some task)).task? other = some t') :
        ∃ t, c.task? other = some t ∧ t'.run = t.run ∧ t'.ticker = t.ticker := by
      have hmodified := (task?_modifyTask c task other _).symm.trans ht'
      obtain ⟨t, ht, rfl⟩ := Option.map_eq_some_iff.mp hmodified
      refine ⟨t, ht, ?_⟩
      split <;> exact ⟨rfl, rfl⟩
    constructor
    case undropped => exact h.undropped
    case known => exact h.known
    case guarded =>
      intro other dropped work' task' hhas hrun
      obtain ⟨t, ht, hguard⟩ := h.guarded hhas hrun
      have hother : task ≠ task' := by
        rintro rfl
        exact haway.alone hrunOf hhas hrun
      refine ⟨t, ?_, hguard⟩
      refine (task?_modifyTask c task task' _).trans ?_
      rw [ht, Option.map_some, if_neg hother]
    case single => exact h.single
    case run =>
      intro other t' job ht' hrun
      obtain ⟨t, ht, hsame, -⟩ := htask ht'
      exact h.run ht (hsame.symm.trans hrun)
    case latest =>
      intro other t' job dropped work' ht' hrun hhas
      obtain ⟨t, ht, hsame, -⟩ := htask ht'
      exact h.latest ht (hsame.symm.trans hrun) hhas
    case ticker =>
      intro other t' ht'
      obtain ⟨t, ht, -, hticker⟩ := htask ht'
      exact hticker ▸ h.ticker ht
    case pending => exact h.pending

/-! ## Turns -/

/-- What has happened when the work of a turn has acted: bodies do what they may, and a ticker may
begin a run. -/
inductive Acted (may : Clockwork β σ → Clockwork β σ → Prop) (c : Clockwork β σ) :
    Work β → Clockwork β σ → Prop where
  | body {work : Work β} {c' : Clockwork β σ} : may c c' → Acted may c work c'
  | run {work : Work β} {task : Nat} {t : TimedTask β} : work.runOf? = none →
      c.task? task = some t → t.guard = .idle → Acted may c work (c.beginRun task t.body)

/-- What a turn makes of the clockwork: the job has acted, and waits again with some work, or is
over. -/
inductive Turned (may : Clockwork β σ → Clockwork β σ → Prop) (next : Work β → Prop)
    (c : Clockwork β σ) (entry : JobEntry (Work β)) : Clockwork β σ → Prop where
  | waits {c' : Clockwork β σ} {after : Work β} (due : Due) :
      Acted may (c.without entry.job) entry.work c' → after.runOf? = entry.work.runOf? →
        next after →
          Turned may next c entry { c' with agenda := c'.agenda.suspend entry.job due after }
  | ends {c' : Clockwork β σ} : Acted may (c.without entry.job) entry.work c' →
      Turned may next c entry ((c'.releaseGuard entry.work.runOf?).close entry.job)

theorem turn_of_waits {body : Body β σ} {c acted : Clockwork β σ} {entry : JobEntry (Work β)}
    {due : Due} {after : Work β} (hdropped : entry.dropped = false)
    (hact : act body c entry.job entry.work = (acted, some (due, after))) :
    turn body c entry = { acted with agenda := acted.agenda.suspend entry.job due after } := by
  unfold turn
  rw [hdropped, hact]
  rfl

theorem turn_of_ends {body : Body β σ} {c acted : Clockwork β σ} {entry : JobEntry (Work β)}
    (hdropped : entry.dropped = false)
    (hact : act body c entry.job entry.work = (acted, none)) :
    turn body c entry = acted.close entry.job := by
  unfold turn
  rw [hdropped, hact]
  rfl

theorem turned_of_body {may : Clockwork β σ → Clockwork β σ → Prop} {next : Work β → Prop}
    (hrefl : ∀ c, may c c) (htick : ∀ task, next (.tick task)) {body : Body β σ}
    {c : Clockwork β σ} {entry : JobEntry (Work β)} (hdropped : entry.dropped = false)
    (hbody : ∀ task b, entry.work = .body task b →
      may (c.without entry.job) (body entry.job b (c.without entry.job)).1 ∧
        ∀ due b', (body entry.job b (c.without entry.job)).2 = some (due, b') →
          next (.body task b')) :
    Turned may next c entry (turn body (c.without entry.job) entry) := by
  have hticks {result : Clockwork β σ × Option (Due × Work β)}
      (hact : act body (c.without entry.job) entry.job entry.work = result) {task : Nat}
      (hrun : entry.work.runOf? = none)
      (hresult : (result.1 = c.without entry.job ∨ ∃ t, c.task? task = some t ∧
          t.guard = .idle ∧ result.1 = (c.without entry.job).beginRun task t.body) ∧
        (result.2 = none ∨ ∃ due, result.2 = some (due, .tick task))) :
      Turned may next c entry (turn body (c.without entry.job) entry) := by
    obtain ⟨acted, after⟩ := result
    obtain ⟨hbegun, hafter⟩ := hresult
    have hacted : Acted may (c.without entry.job) entry.work acted := by
      rcases hbegun with rfl | ⟨t, ht, hidle, rfl⟩
      · exact .body (hrefl _)
      · exact .run hrun ht hidle
    rcases hafter with rfl | ⟨due, rfl⟩
    · have hends : Turned may next c entry _ := .ends hacted
      rw [turn_of_ends hdropped hact]
      rwa [hrun] at hends
    · rw [turn_of_waits hdropped hact]
      exact .waits due hacted hrun.symm (htick task)
  cases hwork : entry.work with
  | rest task delay =>
    exact hticks (by rw [hwork]; rfl) (by rw [hwork]; rfl) (rest_cases _ task delay)
  | tick task => exact hticks (by rw [hwork]; rfl) (by rw [hwork]; rfl) (tick_cases _ task)
  | body task b =>
    obtain ⟨hmay, hnext⟩ := hbody task b hwork
    generalize hacted : body entry.job b (c.without entry.job) = result at hmay hnext
    obtain ⟨acted, after⟩ := result
    cases after with
    | none =>
      have hends : Turned may next c entry _ := .ends (.body hmay)
      rw [turn_of_ends hdropped (by rw [hwork, act, hacted])]
      rwa [hwork] at hends
    | some after =>
      obtain ⟨due, b'⟩ := after
      rw [turn_of_waits hdropped (by rw [hwork, act, hacted])]
      exact .waits due (.body hmay) (by rw [hwork]; rfl) (hnext due b' rfl)

namespace Turned

variable {may : Clockwork β σ → Clockwork β σ → Prop} {next : Work β → Prop}
  {c c' : Clockwork β σ} {entry : JobEntry (Work β)}

/-- What is on the agenda after a turn was there before, or the job waits on, or it has begun. -/
theorem has_cases {allowed : Nat → Work β → Prop}
    (hmay : ∀ {c c'}, may c c' → ∀ {job dropped work}, c'.agenda.Has job dropped work →
      c.agenda.Has job dropped work ∨ allowed job work)
    (hnext : ∀ {work}, next work → allowed entry.job work)
    (hrun : ∀ {task t} job, c.task? task = some t → allowed job (.body (some task) t.body))
    (hturned : Turned may next c entry c') {job : Nat} {dropped : Bool} {work : Work β}
    (hhas : c'.agenda.Has job dropped work) :
    c.agenda.Has job dropped work ∧ job ≠ entry.job ∨ allowed job work := by
  have hacted {acted : Clockwork β σ}
      (hacted : Acted may (c.without entry.job) entry.work acted)
      (hhas : acted.agenda.Has job dropped work) :
      c.agenda.Has job dropped work ∧ job ≠ entry.job ∨ allowed job work := by
    cases hacted with
    | body hbody => exact (hmay hbody hhas).imp_left Agenda.has_without.mp
    | run _ ht _ =>
      rcases has_beginRun.mp hhas with hhas | ⟨-, -, rfl⟩
      · exact .inl (Agenda.has_without.mp hhas)
      · exact .inr (hrun job ht)
  cases hturned with
  | waits due hdone _ hafter =>
    rcases Agenda.has_suspend.mp hhas with hhas | ⟨rfl, -, rfl⟩
    · exact hacted hdone hhas
    · exact .inr (hnext hafter)
  | @ends acted hdone =>
    have hreleased : (acted.releaseGuard entry.work.runOf?).agenda = acted.agenda := by
      cases entry.work.runOf? <;> rfl
    exact hacted hdone (hreleased ▸ Agenda.has_finish.mp hhas)

variable (hmay : ∀ {c c'}, may c c' → Tends c c') (h : c.Orderly)
  (hentry : entry ∈ c.agenda.entries)

include hmay h hentry

theorem acted_spec {acted : Clockwork β σ}
    (hacted : Acted may (c.without entry.job) entry.work acted) :
    acted.Orderly ∧ acted.Away entry.job entry.work ∧
      c.agenda.started ≤ acted.agenda.started ∧
        ∀ {job}, c.Over job → acted.Over job ∧ job ≠ entry.job := by
  have horderly := h.without entry.job
  have haway := h.away (Agenda.Has.of_mem hentry)
  have hother {job : Nat} (hover : c.Over job) : job ≠ entry.job := by
    rintro rfl
    exact Agenda.isOver_iff.mp hover.2 _ _ (.of_mem hentry)
  have hwithout {job : Nat} (hover : c.Over job) : (c.without entry.job).Over job :=
    ⟨hover.1, Agenda.isOver_iff.mpr fun _ _ hhas =>
      Agenda.isOver_iff.mp hover.2 _ _ (Agenda.has_without.mp hhas).1⟩
  cases hacted with
  | body hbody =>
    have htends := hmay hbody
    exact ⟨htends.orderly horderly, htends.away haway, htends.started,
      fun hover => ⟨htends.stays_over (hwithout hover), hother hover⟩⟩
  | run hrun ht hidle =>
    refine ⟨horderly.beginRun ht hidle, haway.beginRun hrun, Nat.le_succ _,
      fun hover => ⟨⟨hover.1.trans (Nat.lt_succ_self _), ?_⟩, hother hover⟩⟩
    refine Agenda.isOver_iff.mpr fun dropped work hhas => ?_
    rcases has_beginRun.mp hhas with hhas | ⟨rfl, -⟩
    · exact Agenda.isOver_iff.mp (hwithout hover).2 _ _ hhas
    · exact lt_irrefl _ hover.1

theorem orderly (hturned : Turned may next c entry c') : c'.Orderly := by
  cases hturned with
  | waits due hacted hkind =>
    obtain ⟨horderly, haway, -⟩ := acted_spec hmay h hentry hacted
    exact horderly.suspend haway hkind due
  | ends hacted =>
    obtain ⟨horderly, haway, -⟩ := acted_spec hmay h hentry hacted
    exact (Tends.close _ entry.job).orderly (horderly.releaseGuard haway)

theorem stays_over (hturned : Turned may next c entry c') {job : Nat} (hover : c.Over job) :
    c'.Over job := by
  cases hturned with
  | waits due hacted hkind =>
    obtain ⟨-, -, -, hkeeps⟩ := acted_spec hmay h hentry hacted
    obtain ⟨hover, hother⟩ := hkeeps hover
    refine ⟨hover.1, Agenda.isOver_iff.mpr fun dropped work hhas => ?_⟩
    rcases Agenda.has_suspend.mp hhas with hhas | ⟨hjob, -⟩
    · exact Agenda.isOver_iff.mp hover.2 _ _ hhas
    · exact hother hjob
  | @ends acted hacted =>
    obtain ⟨-, -, -, hkeeps⟩ := acted_spec hmay h hentry hacted
    have hreleased : (acted.releaseGuard entry.work.runOf?).agenda = acted.agenda := by
      cases entry.work.runOf? <;> rfl
    have hover := (hkeeps hover).1
    exact (Tends.close _ entry.job).stays_over ⟨by rw [hreleased]; exact hover.1,
      by rw [hreleased]; exact hover.2⟩

end Turned

/-! ## What others leave as it is -/

/-- What a task keeps while others have their turns: a new run may begin, when the one before is
over. -/
def Kept (c c' : Clockwork β σ) (t t' : TimedTask β) : Prop :=
  t'.ticker = t.ticker ∧ t'.holdsTicker = t.holdsTicker ∧ t'.body = t.body ∧
    (t'.run = t.run ∨ ∃ job, t'.run = some job ∧ c.agenda.started ≤ job ∧
      job < c'.agenda.started ∧ ∀ old, t.run = some old → c'.Over old)

/-- What the scheduler holds stays as it is while others have their turns, but for new runs. -/
structure Calm (c c' : Clockwork β σ) : Prop where
  started : c.agenda.started ≤ c'.agenda.started
  stays_over {job} : c.Over job → c'.Over job
  disposed : c'.scheduler.disposed = c.scheduler.disposed
  pending : c'.scheduler.pending = c.scheduler.pending
  task (task : Nat) : Option.Rel (Kept c c') (c.task? task) (c'.task? task)

theorem Calm.of_same {c c' : Clockwork β σ} (h : SameJobs c c') : Calm c c' where
  started := h.started.ge
  stays_over := (Tends.of_same h).stays_over
  disposed := by rw [h.scheduler]
  pending := by rw [h.scheduler]
  task task := by
    rw [h.task?_eq]
    cases c.task? task with
    | none => exact .none
    | some t => exact .some ⟨rfl, rfl, rfl, .inl rfl⟩

theorem Calm.without (c : Clockwork β σ) (job : Nat) : Calm c (c.without job) where
  started := le_rfl
  stays_over hover := ⟨hover.1, Agenda.isOver_iff.mpr fun _ _ hhas =>
    Agenda.isOver_iff.mp hover.2 _ _ (Agenda.has_without.mp hhas).1⟩
  disposed := rfl
  pending := rfl
  task task := by
    change Option.Rel _ (c.task? task) (c.task? task)
    cases c.task? task with
    | none => exact .none
    | some t => exact .some ⟨rfl, rfl, rfl, .inl rfl⟩

theorem task?_releaseGuard (c : Clockwork β σ) (run : Option Nat) (task : Nat) :
    ∃ release : TimedTask β → TimedTask β,
      (c.releaseGuard run).task? task = (c.task? task).map release ∧
        ∀ t, (release t).ticker = t.ticker ∧ (release t).holdsTicker = t.holdsTicker ∧
          (release t).body = t.body ∧ (release t).run = t.run := by
  cases run with
  | none => exact ⟨id, Option.map_id_apply.symm, fun _ => ⟨rfl, rfl, rfl, rfl⟩⟩
  | some other =>
    refine ⟨_, task?_modifyTask c other task _, fun t => ?_⟩
    split <;> exact ⟨rfl, rfl, rfl, rfl⟩

/-- A turn in which no body touches the scheduler is calm. -/
theorem Turned.calm {may : Clockwork β σ → Clockwork β σ → Prop} {next : Work β → Prop}
    {c c' : Clockwork β σ} {entry : JobEntry (Work β)}
    (hmay : ∀ {c c'}, may c c' → Tends c c' ∧ c'.scheduler = c.scheduler) (h : c.Orderly)
    (hentry : entry ∈ c.agenda.entries) (hturned : Turned may next c entry c') : Calm c c' := by
  have hover {job : Nat} (hover : c.Over job) : c'.Over job :=
    hturned.stays_over (fun hdone => (hmay hdone).1) h hentry hover
  -- Whatever has acted, what follows in the turn can only release a guard.
  have hends {acted : Clockwork β σ}
      (hacted : Acted may (c.without entry.job) entry.work acted)
      (hstarted : c'.agenda.started = acted.agenda.started)
      (hdisposed : c'.scheduler.disposed = acted.scheduler.disposed)
      (hpending : c'.scheduler.pending = acted.scheduler.pending)
      (htask : ∀ task, ∃ release : TimedTask β → TimedTask β,
        c'.task? task = (acted.task? task).map release ∧
          ∀ t, (release t).ticker = t.ticker ∧ (release t).holdsTicker = t.holdsTicker ∧
            (release t).body = t.body ∧ (release t).run = t.run) : Calm c c' := by
    have hge : c.agenda.started ≤ acted.agenda.started :=
      (acted_spec (fun hdone => (hmay hdone).1) h hentry hacted).2.2.1
    cases hacted with
    | body hbody =>
      have hscheduler : acted.scheduler = c.scheduler := (hmay hbody).2
      refine ⟨hstarted ▸ hge, hover, by rw [hdisposed, hscheduler],
        by rw [hpending, hscheduler], fun task => ?_⟩
      obtain ⟨release, heq, hrelease⟩ := htask task
      have hsame : acted.task? task = c.task? task := by rw [task?, task?, hscheduler]
      rw [heq, hsame]
      cases c.task? task with
      | none => exact .none
      | some t =>
        obtain ⟨hticker, hholds, hbody, hrun⟩ := hrelease t
        exact .some ⟨hticker, hholds, hbody, .inl hrun⟩
    | @run begun t _ ht hidle =>
      refine ⟨hstarted ▸ hge, hover, hdisposed, hpending, fun task => ?_⟩
      obtain ⟨release, heq, hrelease⟩ := htask task
      rw [heq, task?_beginRun]
      change Option.Rel _ (c.task? task) (((c.task? task).map _).map release)
      cases hother : c.task? task with
      | none => exact .none
      | some other =>
        refine .some ?_
        dsimp only
        split
        · subst begun
          cases hother.symm.trans ht
          obtain ⟨hticker, hholds, hbody, hrun⟩ :=
            hrelease { t with guard := .running, run := some c.agenda.started }
          refine ⟨hticker, hholds, hbody, .inr ⟨_, hrun, le_rfl, ?_, fun old hold => ?_⟩⟩
          · rw [hstarted]
            exact Nat.lt_succ_self _
          · exact hover (h.over_of_idle ht hidle hold)
        · obtain ⟨hticker, hholds, hbody, hrun⟩ := hrelease other
          exact ⟨hticker, hholds, hbody, .inl hrun⟩
  cases hturned with
  | waits due hacted _ _ =>
    exact hends hacted rfl rfl rfl fun task =>
      ⟨id, Option.map_id_apply.symm, fun _ => ⟨rfl, rfl, rfl, rfl⟩⟩
  | @ends acted hacted =>
    refine hends hacted ?_ ?_ ?_ fun task => acted.task?_releaseGuard entry.work.runOf? task
    all_goals cases entry.work.runOf? <;> rfl

/-! ## New jobs -/

theorem Tends.reserve (c : Clockwork β σ) : Tends c { c with agenda := c.agenda.reserve.2 } where
  started := Nat.le_succ _
  stays := id
  comes := .inl
  pending := .inl
  task _ := rel_loses_refl _

theorem Tends.schedule (c : Clockwork β σ) (body : β) : Tends c (c.schedule body) := by
  have hspawn := Tends.spawn c body
  unfold Clockwork.schedule
  split
  · exact .refl c
  · exact {
      started := hspawn.started
      stays := hspawn.stays
      comes := hspawn.comes
      pending := fun hmem => by
        rcases List.mem_append.mp hmem with hmem | hmem
        · exact .inl (List.mem_filter.mp hmem).1
        · rw [List.mem_singleton.mp hmem]
          exact .inr ⟨le_rfl, Nat.lt_succ_self _⟩
      task := hspawn.task }

theorem has_schedule {c : Clockwork β σ} {body : β} {job : Nat} {dropped : Bool} {work : Work β}
    (hhas : (c.schedule body).agenda.Has job dropped work) :
    c.agenda.Has job dropped work ∨ work = .body none body := by
  unfold Clockwork.schedule at hhas
  split at hhas
  · exact .inl hhas
  · exact (Agenda.has_start.mp hhas).imp_right fun hnew => hnew.2.2

theorem task?_scheduleTimed {c : Clockwork β σ} {delay : Nat} {plan : RunPlan} {body : β}
    {task : Nat} {t : TimedTask β} (ht : (c.scheduleTimed delay plan body).2.task? task = some t) :
    c.task? task = some t ∨ t.run = none ∧ t.ticker = c.agenda.started ∧ t.body = body := by
  unfold scheduleTimed task? at ht
  dsimp only at ht
  rw [List.getElem?_append] at ht
  split at ht
  · exact .inl ht
  · have hmem := List.mem_of_getElem? ht
    cases List.mem_singleton.mp hmem
    exact .inr ⟨rfl, rfl, rfl⟩

theorem task?_scheduleTimed_of_some {c : Clockwork β σ} {task : Nat} {t : TimedTask β}
    (ht : c.task? task = some t) (delay : Nat) (plan : RunPlan) (body : β) :
    (c.scheduleTimed delay plan body).2.task? task = some t := by
  unfold scheduleTimed task?
  dsimp only
  rw [List.getElem?_append_left (List.getElem?_eq_some_iff.mp ht).1]
  exact ht

theorem Orderly.scheduleTimed {c : Clockwork β σ} (h : c.Orderly) (delay : Nat) (plan : RunPlan)
    (body : β) : (c.scheduleTimed delay plan body).2.Orderly := by
  have hhas {job : Nat} {dropped : Bool} {work : Work β}
      (hhas : (c.scheduleTimed delay plan body).2.agenda.Has job dropped work) :
      c.agenda.Has job dropped work ∨
        job = c.agenda.started ∧ dropped = false ∧ work.runOf? = none :=
    (Agenda.has_start.mp hhas).imp_right fun ⟨hjob, hdropped, hwork⟩ =>
      ⟨hjob, hdropped, congrArg Work.runOf? hwork⟩
  have hrunOf {job : Nat} {dropped : Bool} {work : Work β} {task : Nat}
      (hnew : (c.scheduleTimed delay plan body).2.agenda.Has job dropped work)
      (hrun : work.runOf? = some task) : c.agenda.Has job dropped work := by
    rcases hhas hnew with hold | ⟨-, -, hnone⟩
    · exact hold
    · rw [hnone] at hrun
      cases hrun
  have hrun {task : Nat} {t : TimedTask β} {job : Nat}
      (ht : (c.scheduleTimed delay plan body).2.task? task = some t) (hrun : t.run = some job) :
      c.task? task = some t := by
    rcases task?_scheduleTimed ht with ht | ⟨hnone, -⟩
    · exact ht
    · rw [hnone] at hrun
      cases hrun
  constructor
  case undropped =>
    intro job dropped work hnew
    rcases hhas hnew with hold | ⟨-, hdropped, -⟩
    · exact h.undropped hold
    · exact hdropped
  case known =>
    intro job dropped work hnew
    rcases hhas hnew with hold | ⟨rfl, -⟩
    · exact (h.known hold).trans (Nat.lt_succ_self _)
    · exact Nat.lt_succ_self _
  case guarded =>
    intro job dropped work task hnew hwork
    obtain ⟨t, ht, hguard⟩ := h.guarded (hrunOf hnew hwork) hwork
    exact ⟨t, task?_scheduleTimed_of_some ht delay plan body, hguard⟩
  case single =>
    intro job dropped work other dropped' work' task hnew hnew' hwork hwork'
    exact h.single (hrunOf hnew hwork) (hrunOf hnew' hwork') hwork hwork'
  case run =>
    intro task t job ht hjob
    exact (h.run (hrun ht hjob) hjob).trans (Nat.lt_succ_self _)
  case latest =>
    intro task t job dropped work ht hjob hnew
    have hold := hrun ht hjob
    rcases hhas hnew with hhas | ⟨rfl, -⟩
    · exact h.latest hold hjob hhas
    · exact absurd (h.run hold hjob) (lt_irrefl _)
  case ticker =>
    intro task t ht
    rcases task?_scheduleTimed ht with ht | ⟨-, hticker, -⟩
    · exact (h.ticker ht).trans (Nat.lt_succ_self _)
    · rw [hticker]
      exact Nat.lt_succ_self _
  case pending =>
    intro job hmem
    exact (h.pending hmem).trans (Nat.lt_succ_self _)

end Clockwork

end EventGate
