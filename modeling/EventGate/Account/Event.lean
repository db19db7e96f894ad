import EventGate.Event.Basic
import EventGate.Json.Access
import EventGate.Json.Writer

/-! # Accounts of events

What an event and its properties are, as JSON for somebody who inspects them. Numbers are given as
texts, so that none is out of range, and JSON inside is given as the text that is written for it.
-/

namespace EventGate

def Binary64.account (x : Binary64) : Json :=
  .string (x.text .plain)

def PropertyValue.account : PropertyValue → Json
  | .text s => .object [("s", .string s)]
  | .number x => .object [("n", x.account)]
  | .flag b => .object [("b", .bool b)]
  | .personal inner => .object [("pii", inner.account)]
  | .structured json => .object [("complex", .string json.write)]

def Bag.account (bag : Bag) : Json :=
  .array (bag.entries.map fun e => .array [.string e.1, e.2.account])

def EventKind.label : EventKind → String
  | trace => "Trace"
  | operation => "Operation"
  | fault => "Fault"
  | metric => "Metric"
  | setting => "Setting"

def Metric.account (metric : Metric) : Json :=
  .array [.string metric.name, metric.value.account]

def Event.account (event : Event) : Json :=
  .ofMembers [
    ("name", .string event.name),
    ("timestamp", .ofNat event.timestamp),
    ("severity", .string event.severity.word),
    ("kind", .string event.kind.label),
    ("metric", .ofOption Metric.account event.metric),
    ("friendly", .bool event.friendly),
    ("props", event.properties.account),
    ("excluded", .ofTexts (event.properties.names.filter event.isExcluded)),
    ("excluded_count", .ofNat event.excluded.size),
    ("sent", .string event.toJson.write)]

end EventGate
