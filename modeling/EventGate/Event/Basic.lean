import EventGate.Event.Naming
import EventGate.Property.Bag

/-! # Events

A named event with its properties, and the set of names that are held back from sending. A property
that is held back stays in the bag, so that rules still see it.
-/

namespace EventGate

inductive Severity where
  | low
  | normal
  | high
deriving DecidableEq, Repr

inductive EventKind where
  | trace
  | operation
  | fault
  | metric
  | setting
deriving DecidableEq, Repr

namespace Severity

def word : Severity → String
  | low => "low"
  | normal => "normal"
  | high => "high"

def all : List Severity := [low, normal, high]

def ofWord? (word : String) : Option Severity :=
  all.find? (·.word == word)

end Severity

namespace EventKind

def word : EventKind → String
  | trace => "trace"
  | operation => "operation"
  | fault => "fault"
  | metric => "metric"
  | setting => "setting"

def all : List EventKind := [trace, operation, fault, metric, setting]

def ofWord? (word : String) : Option EventKind :=
  all.find? (·.word == word)

end EventKind

structure Metric where
  name : String
  value : Binary64
deriving DecidableEq

/-- An event. `friendlyNames` are the properties that an opted-out session may send if the event is
friendly. -/
structure Event where
  id : String
  name : String
  timestamp : Nat
  severity : Severity
  kind : EventKind
  metric : Option Metric
  friendly : Bool
  friendlyNames : NameSet
  properties : Bag
  excluded : NameSet

namespace Event

def create (id name : String) : Except Fault Event := do
  Naming.checkEventName name
  return {
    id, name
    timestamp := 0
    severity := .normal
    kind := .trace
    metric := none
    friendly := false
    friendlyNames := .empty
    properties := .empty
    excluded := .empty }

def createMetric (id name : String) (metric : Metric) : Except Fault Event := do
  return { ← create id name with kind := .metric, metric := some metric }

def makeFriendly (event : Event) (names : List String) : Event :=
  { event with friendly := true, friendlyNames := .ofList names }

def put (event : Event) (name : String) (value : PropertyValue) : Event :=
  { event with properties := event.properties.insert name value }

def setProperty (event : Event) (name : String) (value : PropertyValue) : Except Fault Event := do
  Naming.checkPropertyName name
  return event.put name value

def isExcluded (event : Event) (name : String) : Bool :=
  event.excluded.contains name

/-- The value of a property that is not held back. -/
def property? (event : Event) (name : String) : Option PropertyValue :=
  if event.isExcluded name then none else event.properties.get? name

/-- Holds back a property of the bag, and with it the raw text of its value. It tells whether the
property was not held back before. -/
def withhold (event : Event) (name : String) : Bool × Event :=
  if event.properties.contains name then
    let raw := Naming.rawName name
    let excluded :=
      if event.properties.contains raw then event.excluded.insert raw else event.excluded
    let added := excluded.add name
    (added.1, { event with excluded := added.2 })
  else
    (false, event)

def exclude (event : Event) (name : String) : Event :=
  (event.withhold name).2

/-- Gives a property free, and with it the raw text of its value. It tells whether the property was
held back. -/
def release (event : Event) (name : String) : Bool × Event :=
  let removed := (event.excluded.erase (Naming.rawName name)).remove name
  (removed.1, { event with excluded := removed.2 })

def readmit (event : Event) (name : String) : Event :=
  (event.release name).2

def excludeAll (event : Event) (names : List String) : Event :=
  names.foldl exclude event

def readmitAll (event : Event) (names : List String) : Event :=
  names.foldl readmit event

def sent (event : Event) : List Entry :=
  event.properties.entries.filter fun e => !event.isExcluded e.1

def toJson (event : Event) : Json :=
  .ofMembers [
    ("id", .string event.id),
    ("name", .string event.name),
    ("timestamp", .ofNat event.timestamp),
    ("severity", .string event.severity.word),
    ("kind", .string event.kind.word),
    ("properties", .ofMembers (event.sent.map fun e => (e.1, e.2.toJson)))]

theorem exclude_eq (event : Event) (name : String) :
    event.exclude name =
      if event.properties.contains name then
        let raw := Naming.rawName name
        let excluded :=
          if event.properties.contains raw then event.excluded.insert raw else event.excluded
        { event with excluded := excluded.insert name }
      else event := by
  unfold exclude withhold
  split <;> rfl

theorem readmit_eq (event : Event) (name : String) :
    Event.readmit event name =
      { event with excluded := (event.excluded.erase (Naming.rawName name)).erase name } := rfl

@[simp] theorem properties_exclude (event : Event) (name : String) :
    (event.exclude name).properties = event.properties := by
  rw [exclude_eq]
  split <;> rfl

@[simp] theorem properties_readmit (event : Event) (name : String) :
    (event.readmit name).properties = event.properties := rfl

end Event

end EventGate
