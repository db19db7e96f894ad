import EventGate.Property.Value
import EventGate.Text.Fold
import EventGate.Text.Split

/-! # Comparisons

What a rule asks of one property value. Texts are compared up to case, and numbers by their order.
-/

namespace EventGate

/-- The first of the given keys that an object has decides how it is taken; the others are not
looked at. -/
def Json.firstMember? {α : Type} (raw : Json) : List (String × (Json → Option α)) → Option α
  | [] => none
  | (key, take) :: rest =>
    match raw.get? key with
    | some value => take value
    | none => firstMember? raw rest

inductive Comparison where
  | equals (s : String)
  | below (bound : Binary64)
  | above (bound : Binary64)
  | present (wanted : Bool)
  | startsWith (s : String)
  | endsWith (s : String)
  | contains (s : String)
  | unknown (raw : Json)

namespace Comparison

open Text

def ofJson (raw : Json) : Comparison :=
  (raw.firstMember? [
    ("eq", fun v => v.string?.map equals),
    ("lt", fun v => v.binary?.map below),
    ("gt", fun v => v.binary?.map above),
    ("exists", fun v => v.bool?.map present),
    ("startsWith", fun v => v.string?.map startsWith),
    ("endsWith", fun v => v.string?.map endsWith),
    ("contains", fun v => v.string?.map contains)]).getD (unknown raw)

def foldedText (value : PropertyValue) : List Char :=
  foldChars value.matchText.toList

def acceptsValue (value : PropertyValue) : Comparison → Bool
  | equals s => sameName value.matchText s
  | below bound =>
    match value.number? with
    | some x => x.less bound
    | none => false
  | above bound =>
    match value.number? with
    | some x => bound.less x
    | none => false
  | present _ => true
  | startsWith s => (foldChars s.toList).isPrefixOf (foldedText value)
  | endsWith s => (foldChars s.toList).isSuffixOf (foldedText value)
  | contains s => occursIn (foldChars s.toList) (foldedText value)
  | unknown _ => false

/-- Whether a property passes the test; one that is missing passes none. -/
def accepts (comparison : Comparison) : Option PropertyValue → Bool
  | none => false
  | some value => comparison.acceptsValue value

@[simp] theorem accepts_none (comparison : Comparison) : comparison.accepts none = false := rfl

def check : Comparison → Except RuleFault Unit
  | equals _ => .ok ()
  | below bound => if bound.isFinite then .ok () else .error (.boundNotFinite "lt")
  | above bound => if bound.isFinite then .ok () else .error (.boundNotFinite "gt")
  | present wanted => if wanted then .ok () else .error .existsFalse
  | startsWith s => if s.isEmpty then .error (.emptyPattern "startsWith") else .ok ()
  | endsWith s => if s.isEmpty then .error (.emptyPattern "endsWith") else .ok ()
  | contains s => if s.isEmpty then .error (.emptyPattern "contains") else .ok ()
  | unknown raw => .error (.unknownValue raw)

end Comparison

end EventGate
