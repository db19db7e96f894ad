import EventGate.Pipeline.Context
import EventGate.Pipeline.Priority

/-! # Stages

A stage looks at an event, its record and the state that the host's stages share, changes them, and
says whether the event goes on. An event passes the stages in the order of their places; stages of
the same place keep their order.
-/

namespace EventGate

/-- What surrounds an event on its way: the session, the restricted channels, and the time in
milliseconds. -/
structure Surroundings where
  session : Session
  restricted : List String
  now : Nat

structure Pass (σ : Type) where
  event : Event
  context : Context
  state : σ

structure Stage (σ : Type) where
  priority : Priority
  name : String
  run : Surroundings → Pass σ → Bool × Pass σ

namespace Stage

variable {σ τ : Type}

def stateless (priority : Priority) (name : String)
    (run : Surroundings → Event → Context → Bool × Event × Context) : Stage σ where
  priority := priority
  name := name
  run around pass :=
    let (goesOn, event, context) := run around pass.event pass.context
    (goesOn, { pass with event, context })

/-- A stage with a part of a larger state. -/
def lift (get : τ → σ) (put : τ → σ → τ) (stage : Stage σ) : Stage τ where
  priority := stage.priority
  name := stage.name
  run around pass :=
    let (goesOn, after) := stage.run around ⟨pass.event, pass.context, get pass.state⟩
    (goesOn, ⟨after.event, after.context, put pass.state after.state⟩)

def before (a b : Stage σ) : Bool :=
  decide (a.priority.value ≤ b.priority.value)

def sort (stages : List (Stage σ)) : List (Stage σ) :=
  stages.mergeSort before

/-- Two sorted lists as one; of the same place the first list comes first. -/
def merge : List (Stage σ) → List (Stage σ) → List (Stage σ)
  | [], right => right
  | left, [] => left
  | a :: left, b :: right =>
    if before a b then a :: merge left (b :: right) else b :: merge (a :: left) right

/-- Runs stages until one of them stops the event. -/
def runAll (around : Surroundings) : List (Stage σ) → Pass σ → Pass σ
  | [], pass => pass
  | stage :: rest, pass =>
    match stage.run around pass with
    | (true, pass) => runAll around rest pass
    | (false, pass) => pass

@[simp] theorem runAll_nil (around : Surroundings) (pass : Pass σ) :
    runAll around [] pass = pass := rfl

end Stage

end EventGate
