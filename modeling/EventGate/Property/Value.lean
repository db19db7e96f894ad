import EventGate.Decimal.Reader
import EventGate.Fault
import EventGate.Text.Blank

/-! # Property values

The values of event properties, and the forms in which they are compared, hashed and sent. A value
may be marked as personal; what it holds is then compared as before, and sent only in disguise.
-/

namespace EventGate

inductive PropertyValue where
  | text (s : String)
  | number (x : Binary64)
  | flag (b : Bool)
  | personal (inner : PropertyValue)
  | structured (json : Json)

namespace PropertyValue

/-- What is sent in place of a personal value. -/
def redacted : String := "[REDACTED]"

def flagText (b : Bool) : String :=
  if b then "true" else "false"

/-- A number as text: a whole number below `10 ^ 15` in size is shown as one, without the sign of
zero. -/
def numberText (x : Binary64) : String :=
  match x.wholeValue? with
  | some n => if n.natAbs < 1000000000000000 then intText n else x.text .plain
  | none => x.text .plain

/-- The text that match rules compare. -/
def matchText : PropertyValue → String
  | text s => s
  | number x => numberText x
  | flag b => flagText b
  | personal inner => inner.matchText
  | structured json => json.write

/-- The number that match rules compare: a number, or a text that is a finite one. -/
def number? : PropertyValue → Option Binary64
  | number x => if x.isNaN then none else some x
  | text s => (Binary64.ofText? (Text.trim s)).filter Binary64.isFinite
  | personal inner => inner.number?
  | flag _ => none
  | structured _ => none

/-- The text that stands for a value when it is hashed. -/
def invariantText : PropertyValue → Except PersonalFault String
  | text s => .ok s
  | number x => if x.isFinite then .ok (numberText x) else .error (.notFinite x)
  | flag b => .ok (flagText b)
  | personal inner => inner.invariantText
  | structured _ => .error .structured

def isEmptyText : PropertyValue → Bool
  | text s => s.isEmpty
  | _ => false

def isPersonal : PropertyValue → Bool
  | personal _ => true
  | _ => false

def isStructured : PropertyValue → Bool
  | structured _ => true
  | _ => false

def toJson : PropertyValue → Json
  | text s => .string s
  | number x => .ofBinary x
  | flag b => .bool b
  | personal _ => .string redacted
  | structured json => json

/-- Equality of values, with numeric equality of numbers. -/
def same : PropertyValue → PropertyValue → Bool
  | text a, text b => a == b
  | number x, number y => x.same y
  | flag a, flag b => a == b
  | personal a, personal b => same a b
  | structured a, structured b => a.same b
  | _, _ => false

/-- Marking a value as personal changes nothing that rules compare. -/
@[simp] theorem matchText_personal (v : PropertyValue) : (personal v).matchText = v.matchText := rfl

@[simp] theorem number?_personal (v : PropertyValue) : (personal v).number? = v.number? := rfl

end PropertyValue

end EventGate
