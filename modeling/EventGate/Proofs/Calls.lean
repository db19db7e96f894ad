import EventGate.Proofs.Passage

/-! # Runs of calls

One processor serves many events. From call to call the flags of the session, the channels, the
manifest and the time may change; what the stages remember stays with the processor.
-/

namespace EventGate

structure Call (κ : Type) where
  session : Session
  registry : Registry κ
  manifest : Manifest
  now : Nat
  event : Event

/-- A call, and the processor as the calls before have left it. -/
structure Step (σ κ : Type) where
  processor : Processor σ κ
  call : Call κ

variable {σ κ : Type}

namespace Step

def serving (s : Step σ κ) : Processor σ κ :=
  { s.processor with session := s.call.session, registry := s.call.registry }

def outcome (s : Step σ κ) : Outcome κ :=
  (s.serving.process s.call.manifest s.call.now s.call.event).1

def next (s : Step σ κ) : Processor σ κ :=
  (s.serving.process s.call.manifest s.call.now s.call.event).2

/-- The event of the call when the stages of the places below a bound have run. -/
def passBelow (s : Step σ κ) (bound : Nat) : Pass σ :=
  s.serving.passBelow s.call.manifest s.call.now s.call.event bound

def passBefore (s : Step σ κ) (place : Priority) : Pass σ :=
  s.passBelow place.value

def passAfter (s : Step σ κ) (place : Priority) : Pass σ :=
  s.passBelow (place.value + 1)

@[simp] theorem host_next (s : Step σ κ) : s.next.host = s.processor.host := rfl

theorem state_next (s : Step σ κ) : s.next.state = (s.passAfter .manifestRoute).state :=
  s.serving.state_process s.call.manifest s.call.now s.call.event

/-- From its start, the event of a call passes one stage for each place below a bound. -/
theorem passBelow_eq_foldl {s : Step HostState κ} (hhost : s.serving.host = HostStage.standard)
    (bound : Nat) :
    s.passBelow bound =
      (Priority.all.filter fun q => decide (0 ≤ q.value) && decide (q.value < bound)).foldl
        (fun pass q => (q.stage s.call.manifest.actions).effect
          (s.serving.surroundings s.call.now) pass)
        (s.serving.entry s.call.manifest s.call.event) := by
  rw [passBelow, Processor.passBelow_eq_foldl hhost _ _ _ (Nat.zero_le bound),
    Processor.passBelow_zero]

theorem passAfter_eq {s : Step HostState κ} (hhost : s.serving.host = HostStage.standard)
    (place : Priority) :
    s.passAfter place =
      (place.stage s.call.manifest.actions).effect (s.serving.surroundings s.call.now)
        (s.passBefore place) :=
  Processor.passAfter_eq hhost _ _ _ place

end Step

/-- The calls of a run, each with the processor that it finds. -/
def Processor.steps (p : Processor σ κ) : List (Call κ) → List (Step σ κ)
  | [] => []
  | call :: rest => ⟨p, call⟩ :: (Step.next ⟨p, call⟩).steps rest

namespace Processor

@[simp] theorem steps_nil (p : Processor σ κ) : p.steps [] = [] := rfl

@[simp] theorem steps_cons (p : Processor σ κ) (call : Call κ) (calls : List (Call κ)) :
    p.steps (call :: calls) = ⟨p, call⟩ :: (Step.next ⟨p, call⟩).steps calls := rfl

/-- What one call keeps of a processor holds for every call of a run. -/
theorem steps_induction {motive : Processor σ κ → Prop} {p : Processor σ κ} (start : motive p)
    (step : ∀ s : Step σ κ, motive s.processor → motive s.next) {calls : List (Call κ)}
    {s : Step σ κ} (hs : s ∈ p.steps calls) : motive s.processor := by
  induction calls generalizing p with
  | nil => exact absurd hs List.not_mem_nil
  | cons call rest ih =>
    rcases List.mem_cons.mp hs with rfl | hs
    · exact start
    · exact ih (step ⟨p, call⟩ start) hs

theorem call_mem_of_mem_steps {p : Processor σ κ} {calls : List (Call κ)} {s : Step σ κ}
    (hs : s ∈ p.steps calls) : s.call ∈ calls := by
  induction calls generalizing p with
  | nil => exact absurd hs List.not_mem_nil
  | cons call rest ih =>
    rcases List.mem_cons.mp hs with rfl | hs
    · exact List.mem_cons_self
    · exact List.mem_cons_of_mem _ (ih hs)

theorem host_of_mem_steps {p : Processor σ κ} {calls : List (Call κ)} {s : Step σ κ}
    (hs : s ∈ p.steps calls) : s.processor.host = p.host :=
  steps_induction (motive := fun q => q.host = p.host) rfl (fun s h => s.host_next.trans h) hs

theorem length_steps (p : Processor σ κ) (calls : List (Call κ)) :
    (p.steps calls).length = calls.length := by
  induction calls generalizing p with
  | nil => rfl
  | cons call rest ih => rw [steps_cons, List.length_cons, List.length_cons, ih]

def after (p : Processor σ κ) : List (Call κ) → Processor σ κ
  | [] => p
  | call :: rest => (Step.next ⟨p, call⟩).after rest

@[simp] theorem after_nil (p : Processor σ κ) : p.after [] = p := rfl

@[simp] theorem after_cons (p : Processor σ κ) (call : Call κ) (calls : List (Call κ)) :
    p.after (call :: calls) = (Step.next ⟨p, call⟩).after calls := rfl

end Processor

end EventGate
