import EventGate.Schedule.Drain
import Mathlib.Logic.Relation

/-! # Turns

What the state of a clockwork can become. Taking turns, letting time pass and tending the tasks
leaves the state to the bodies: it changes only as they change it.
-/

namespace EventGate

open Relation

variable {β σ : Type}

def Agenda.without {ω : Type} (agenda : Agenda ω) (job : Nat) : Agenda ω :=
  { agenda with entries := agenda.entries.filter fun e => e.job != job }

theorem Agenda.take?_eq_some {ω : Type} {agenda rest : Agenda ω} {entry : JobEntry ω}
    (h : agenda.take? = some (entry, rest)) :
    entry ∈ agenda.entries ∧ entry.due = .turn ∧ rest = agenda.without entry.job := by
  obtain ⟨found, hfound, heq⟩ := Option.map_eq_some_iff.mp h
  cases heq
  exact ⟨List.mem_of_find?_eq_some hfound, beq_iff_eq.mp (List.find?_some hfound :), rfl⟩

namespace Clockwork

/-! ## The scheduler's own work -/

@[simp] theorem state_modifyTask (c : Clockwork β σ) (task : Nat)
    (change : TimedTask β → TimedTask β) : (c.modifyTask task change).state = c.state := rfl

@[simp] theorem state_drop (c : Clockwork β σ) (job : Nat) : (c.drop job).state = c.state := rfl

@[simp] theorem state_schedule (c : Clockwork β σ) (body : β) :
    (c.schedule body).state = c.state := by
  unfold schedule
  split <;> rfl

@[simp] theorem state_cancel (c : Clockwork β σ) (task : Nat) :
    (c.cancel task).state = c.state := by
  unfold cancel
  split <;> rfl

@[simp] theorem state_abort (c : Clockwork β σ) (task : Nat) : (c.abort task).state = c.state := by
  unfold abort
  dsimp only
  split
  · exact state_cancel c task
  · split <;> split <;> simp

@[simp] theorem state_dispose (c : Clockwork β σ) : c.dispose.state = c.state := by
  have hfold (step : Clockwork β σ → Nat → Clockwork β σ)
      (hstep : ∀ c n, (step c n).state = c.state) (ns : List Nat) (c : Clockwork β σ) :
      (ns.foldl step c).state = c.state := by
    induction ns generalizing c with
    | nil => rfl
    | cons n ns ih => rw [List.foldl_cons, ih, hstep]
  unfold dispose
  split
  · rfl
  · dsimp only
    rw [hfold abort state_abort, hfold drop state_drop]

@[simp] theorem state_takeTicker (c : Clockwork β σ) (task : Nat) :
    (c.takeTicker task).2.state = c.state := by
  unfold takeTicker
  split <;> rfl

@[simp] theorem state_takeRun (c : Clockwork β σ) (task : Nat) :
    (c.takeRun task).2.state = c.state := by
  unfold takeRun
  split <;> rfl

@[simp] theorem state_takePending (c : Clockwork β σ) : c.takePending.2.state = c.state := rfl

@[simp] theorem state_proceed (todo : Drain) (c : Clockwork β σ) :
    (proceed todo c).2.state = c.state := by
  induction todo generalizing c with
  | nil => rfl
  | cons step rest ih =>
    cases step <;> unfold proceed <;> dsimp only <;> split <;> simp [ih]

@[simp] theorem state_releaseGuard (c : Clockwork β σ) (task : Option Nat) :
    (c.releaseGuard task).state = c.state := by
  cases task <;> rfl

@[simp] theorem state_tick (c : Clockwork β σ) (task : Nat) : (c.tick task).1.state = c.state := by
  unfold tick
  split
  · rfl
  · split
    · rfl
    · dsimp only
      split <;> rfl

@[simp] theorem state_rest (c : Clockwork β σ) (task delay : Nat) :
    (c.rest task delay).1.state = c.state := by
  unfold rest
  split
  · rfl
  · split
    · rfl
    · split
      · exact state_tick c task
      · rfl

@[simp] theorem state_putAway (c : Clockwork β σ) (work : Work β) :
    (c.putAway work).state = c.state := by
  cases work <;> simp [putAway]

theorem state_turn (body : Body β σ) (c : Clockwork β σ) (entry : JobEntry (Work β)) :
    (turn body c entry).state =
      if entry.dropped then c.state else (act body c entry.job entry.work).1.state := by
  unfold turn
  cases entry.dropped with
  | true => exact state_putAway c entry.work
  | false =>
    obtain ⟨next, after⟩ := act body c entry.job entry.work
    cases after with
    | none => rfl
    | some rest => rfl

/-- What a turn leaves of a body that acted. -/
def leaveTurn (job : Nat) (acted : Clockwork β σ × Option (Due × β)) : Clockwork β σ :=
  match acted.2 with
  | some (due, b) => { acted.1 with agenda := acted.1.agenda.suspend job due (.body none b) }
  | none => { acted.1 with agenda := acted.1.agenda.finish job }

/-- The turn of a body that is no run. -/
theorem turn_body (body : Body β σ) (c : Clockwork β σ) (job : Nat) (due : Due) (b : β) :
    turn body c ⟨job, due, false, .body none b⟩ = leaveTurn job (body job b c) := by
  unfold turn act leaveTurn
  dsimp only
  obtain ⟨acted, rest⟩ := body job b c
  cases rest with
  | none => rfl
  | some rest => rfl

theorem state_leaveTurn (job : Nat) (acted : Clockwork β σ × Option (Due × β)) :
    (leaveTurn job acted).state = acted.1.state := by
  unfold leaveTurn
  split <;> rfl

/-! ## Courses -/

/-- What can happen next: work that can go on takes a turn, in whatever order, the file system
answers, or the clock moves on. -/
inductive Step (body : Body β σ) : Clockwork β σ → Clockwork β σ → Prop where
  | turn {c : Clockwork β σ} {entry : JobEntry (Work β)} :
    entry ∈ c.agenda.entries → entry.due = .turn →
      Step body c (turn body { c with agenda := c.agenda.without entry.job } entry)
  | disk (c : Clockwork β σ) : Step body c { c with agenda := c.agenda.answerDisk }
  | clock (c : Clockwork β σ) (time : Nat) : Step body c { c with agenda := c.agenda.moveTo time }

abbrev Course (body : Body β σ) : Clockwork β σ → Clockwork β σ → Prop :=
  ReflTransGen (Step body)

theorem Step.of_take? {body : Body β σ} {c : Clockwork β σ} {entry : JobEntry (Work β)}
    {agenda : Agenda (Work β)} (h : c.agenda.take? = some (entry, agenda)) :
    Step body c (Clockwork.turn body { c with agenda } entry) := by
  obtain ⟨hmem, hready, rfl⟩ := Agenda.take?_eq_some h
  exact .turn hmem hready

theorem course_runTo (body : Body β σ) (target fuel : Nat) (c : Clockwork β σ) :
    Course body c (runTo body target fuel c) := by
  induction fuel generalizing c with
  | zero => exact .refl
  | succ fuel ih =>
    unfold runTo
    split
    · exact .head (.of_take? ‹_›) (ih _)
    · split
      · exact .head (.disk c) (ih _)
      · split
        · split
          · exact .head (.clock c _) (ih _)
          · exact .single (.clock c _)
        · exact .single (.clock c _)

theorem course_runUntil (body : Body β σ) (isReady : Clockwork β σ → Bool) (fuel : Nat)
    (c : Clockwork β σ) : Course body c (runUntil body isReady fuel c) := by
  induction fuel generalizing c with
  | zero => exact .refl
  | succ fuel ih =>
    unfold runUntil
    split
    · exact .head (.of_take? ‹_›) (ih _)
    · split
      · exact .refl
      · split
        · exact .head (.disk c) (ih _)
        · split
          · exact .head (.clock c _) (ih _)
          · exact .refl

theorem course_advance (body : Body β σ) (c : Clockwork β σ) (time : Nat) :
    Course body c (advance body c time) := by
  unfold advance
  split
  · exact .refl
  · exact course_runTo body _ _ c

theorem course_await (body : Body β σ) (isReady : Clockwork β σ → Bool) (c : Clockwork β σ) :
    Course body c (await body isReady c) := by
  unfold await
  split
  · exact .refl
  · exact course_runUntil body isReady _ c

theorem course_settle (body : Body β σ) (c : Clockwork β σ) : Course body c (settle body c) :=
  course_runUntil body _ _ c

/-! ## What bodies make of the state -/

/-- Whatever a body does to the state is a course of these changes. -/
def Makes (body : Body β σ) (change : σ → σ → Prop) : Prop :=
  ∀ job b c, ReflTransGen change c.state (body job b c).1.state

namespace Makes

variable {body : Body β σ} {change : σ → σ → Prop} (h : Makes body change)

include h

theorem act (c : Clockwork β σ) (job : Nat) (work : Work β) :
    ReflTransGen change c.state (act body c job work).1.state := by
  cases work with
  | rest task delay =>
    change ReflTransGen change c.state (c.rest task delay).1.state
    rw [state_rest]
  | tick task =>
    change ReflTransGen change c.state (c.tick task).1.state
    rw [state_tick]
  | body task b =>
    have hbody := h job b c
    unfold Clockwork.act
    dsimp only
    split
    · rename_i heq
      rwa [heq] at hbody
    · rename_i heq
      rw [heq] at hbody
      rwa [state_releaseGuard]

theorem turn (c : Clockwork β σ) (entry : JobEntry (Work β)) :
    ReflTransGen change c.state (turn body c entry).state := by
  rw [state_turn]
  split
  · exact .refl
  · exact h.act c entry.job entry.work

theorem course {c c' : Clockwork β σ} (hcourse : Course body c c') :
    ReflTransGen change c.state c'.state := by
  induction hcourse with
  | refl => exact .refl
  | @tail c' _ _ hstep ih =>
    cases hstep with
    | @turn entry => exact ih.trans (h.turn { c' with agenda := c'.agenda.without entry.job } entry)
    | disk => exact ih
    | clock => exact ih

end Makes

end Clockwork

end EventGate
