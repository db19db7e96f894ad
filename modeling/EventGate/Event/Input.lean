import EventGate.Event.Basic
import EventGate.Json.Reader

/-! # Events as JSON

An event as it is given in a line of text, and the event that is made of it.
-/

namespace EventGate

/-- An event as it is given. `personal` names the properties to be marked, and `friendly` is there
if the event is friendly. -/
structure EventInput where
  name : String
  severity : Severity
  kind : EventKind
  metric : Option Metric
  properties : List (String × Json)
  personal : List String
  friendly : Option (List String)

namespace EventInput

def metricShape : Shape :=
  .record [("name", .text, true), ("value", .real, true)]

def shape : Shape :=
  .record [
    ("name", .text, true),
    ("severity", .word (Severity.all.map Severity.word), false),
    ("kind", .word (EventKind.all.map EventKind.word), false),
    ("metric", .optional metricShape, false),
    ("properties", .map, false),
    ("pii", .list .text, false),
    ("optOutFriendly", .optional (.list .text), false)]

def metricOf? (value : Json) : Option Metric := do
  return ⟨← (← value.get? "name").string?, ← (← value.get? "value").binary?⟩

def ofNormal (value : Json) : EventInput where
  name := ((value.get? "name").bind Json.string?).getD ""
  severity := (((value.get? "severity").bind Json.string?).bind Severity.ofWord?).getD .normal
  kind := (((value.get? "kind").bind Json.string?).bind EventKind.ofWord?).getD .trace
  metric := (value.get? "metric").bind metricOf?
  properties := ((value.get? "properties").bind Json.members?).getD []
  personal := ((value.get? "pii").bind Json.strings?).getD []
  friendly := (value.get? "optOutFriendly").bind Json.strings?

def parse (line : String) : Except Fault EventInput :=
  match Json.readAs shape line with
  | .ok value => .ok (ofNormal value)
  | .error defect => .error (.unserializable defect)

def valueOf? : Json → Option PropertyValue
  | .null => none
  | .string s => some (.text s)
  | .bool b => some (.flag b)
  | .number n => some (.number n.toBinary)
  | value => some (.structured value)

/-- Sets the given properties in the order of their names. -/
def setAll (personal : NameSet) (event : Event) :
    List (String × Json) → Except Fault Event
  | [] => .ok event
  | (name, given) :: rest =>
    match valueOf? given with
    | none => setAll personal event rest
    | some value => do
      let value := if personal.contains name then .personal value else value
      setAll personal (← event.setProperty name value) rest

/-- Makes the event. A metric makes it a metric event, whatever its kind. -/
def toEvent (input : EventInput) (id : String) : Except Fault Event := do
  let plain ←
    match input.metric with
    | some metric => Event.createMetric id input.name metric
    | none => (Event.create id input.name).map fun event => { event with kind := input.kind }
  let event := { plain with severity := input.severity }
  let event :=
    match input.friendly with
    | some names => event.makeFriendly names
    | none => event
  setAll (.ofList input.personal) event input.properties

end EventInput

end EventGate
