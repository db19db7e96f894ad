import Mathlib.Data.List.Forall2
import EventGate.Proofs.Calls

/-! # Records that are used again

A processor lends its records to one event after another, each as the last event left it. Whatever
records it has in store, a call does what it does with a new one, and so does every run of calls.
-/

namespace EventGate

variable {σ κ : Type}

/-- What the stages find one after another, until one of them stops the event. -/
def Stage.views (around : Surroundings) : List (Stage σ) → Pass σ → List (Pass σ)
  | [], _ => []
  | stage :: rest, pass =>
    match stage.run around pass with
    | (true, after) => pass :: views around rest after
    | (false, _) => [pass]

def Processor.withPool (p : Processor σ κ) (pool : List Context) : Processor σ κ :=
  { p with pool }

/-- The calls of a run, each served with a new record. -/
def Processor.freshSteps (p : Processor σ κ) : List (Call κ) → List (Step σ κ)
  | [] => []
  | call :: rest =>
    ⟨p.withPool [], call⟩ :: (Step.next ⟨p.withPool [], call⟩).freshSteps rest

namespace Step

/-- The stamped event, with the record that the processor has for it. -/
def start (s : Step σ κ) : Pass σ :=
  ⟨Processor.stamp s.call.session (s.processor.sequence + 1) s.call.event,
    (Processor.takeContext s.processor.pool s.call.manifest).1, s.processor.state⟩

def views (s : Step σ κ) : List (Pass σ) :=
  Stage.views (s.serving.surroundings s.call.now) (s.serving.stages s.call.manifest) s.start

/-- Two calls of processors that differ in the records in store alone, of which the stages find the
same. They have the same outcome and leave all but the store alike. -/
structure SameButPool (s t : Step σ κ) : Prop where
  call : t.call = s.call
  processor : t.processor = s.processor.withPool t.processor.pool
  views : t.views = s.views
  outcome : t.outcome = s.outcome
  next : t.next = s.next.withPool t.next.pool

variable (p : Processor σ κ) (call : Call κ)

/-- A record from the store is as a new one. -/
theorem start_eq_entry :
    start ⟨p, call⟩ = Processor.entry (serving ⟨p, call⟩) call.manifest call.event := by
  rw [start, Processor.takeContext_fst]
  rfl

/-- What a call leaves, but for what the stages remember and the records in store. -/
theorem next_eq (s : Step σ κ) :
    s.next =
      { s.serving with
        state := s.next.state
        pool := s.next.pool
        sequence := s.processor.sequence + 1
        stats := Processor.count s.processor.stats s.outcome } := rfl

theorem sameButPool_withPool (pool : List Context) :
    SameButPool ⟨p, call⟩ ⟨p.withPool pool, call⟩ := by
  have houtcome : outcome ⟨p.withPool pool, call⟩ = outcome ⟨p, call⟩ := by
    rw [outcome, Processor.process_fst, outcome, Processor.process_fst]
    rfl
  have hstate : (next ⟨p.withPool pool, call⟩).state = (next ⟨p, call⟩).state := by
    rw [state_next, state_next]
    rfl
  refine ⟨rfl, rfl, ?_, houtcome, ?_⟩
  · rw [views, start_eq_entry, views, start_eq_entry]
    rfl
  · rw [next_eq ⟨p.withPool pool, call⟩, hstate, houtcome]
    rfl

end Step

namespace Processor

theorem freshSteps_withPool (p : Processor σ κ) (pool : List Context) (calls : List (Call κ)) :
    (p.withPool pool).freshSteps calls = p.freshSteps calls := by
  cases calls with
  | nil => rfl
  | cons call rest => rfl

/-- A run whose records are used again is the run with a new record for each call: the stages find
the same, the outcomes and what the calls leave are the same. And after any history, no record that
may be in store makes a difference to the next call. -/
theorem reused_records_are_as_new (p : Processor σ κ) (history : List (Call κ)) :
    List.Forall₂ Step.SameButPool (p.steps history) (p.freshSteps history) ∧
      ∀ (next : Call κ) (pool : List Context),
        Step.SameButPool ⟨p.after history, next⟩ ⟨(p.after history).withPool pool, next⟩ := by
  refine ⟨?_, fun next pool => Step.sameButPool_withPool (p.after history) next pool⟩
  induction history generalizing p with
  | nil => exact List.Forall₂.nil
  | cons call rest ih =>
    have hfirst := Step.sameButPool_withPool p call []
    have hrest := ih (Step.next ⟨p, call⟩)
    rw [← freshSteps_withPool _ (Step.next ⟨p.withPool [], call⟩).pool, ← hfirst.next] at hrest
    exact List.Forall₂.cons hfirst hrest

end Processor

end EventGate
