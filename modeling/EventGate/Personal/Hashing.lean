import EventGate.Digest.Keyed
import EventGate.Event.Basic
import EventGate.Session

/-! # Hashing of personal values

Every personal value of an event is replaced by its digest. Where the session collects private
data, the raw text of a property that is sent is put beside it under a name of its own. A personal
value without a text is removed.
-/

namespace EventGate.Personal

/-- Hashes one property; the number counts hashed values. -/
def hashOne (hash : String → String) (attach : Bool) (state : Event × Nat) (name : String) :
    Event × Nat :=
  let (event, count) := state
  match event.properties.get? name with
  | none => (event, count)
  | some value =>
    match value.invariantText with
    | .error _ => ({ event with properties := event.properties.erase name }, count)
    | .ok text =>
      let hashed := event.put name (.text (hash text))
      if attach && !event.isExcluded name then
        (hashed.put (Naming.rawName name) (.text text), count + 1)
      else
        (hashed, count + 1)

def names (event : Event) : List String :=
  (event.properties.entries.filter fun e => e.2.isPersonal).map Prod.fst

def hashAllWith (hash : String → String) (session : Session) (event : Event) : Event × Nat :=
  (names event).foldl (hashOne hash session.collectsPrivate) (event, 0)

def hashAll (session : Session) (event : Event) : Event × Nat :=
  hashAllWith Digest.ofText session event

end EventGate.Personal
