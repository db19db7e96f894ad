import EventGate.Event.Basic
import EventGate.Rule.Comparison

/-! # Conditions

What a rule asks of an event: comparisons of its properties, joined by "all", "any" and "not".
Properties that are held back from sending are seen as well.
-/

namespace EventGate

inductive Condition where
  | all (parts : List Condition)
  | any (parts : List Condition)
  | not (part : Condition)
  | property (name : String) (comparison : Comparison)
  | unknown (raw : Json)

namespace Condition

mutual

def ofJson : Json → Condition
  | .object members =>
    let decoded :=
      match listUnder "and" members with
      | some parts => parts.map all
      | none =>
        match listUnder "or" members with
        | some parts => parts.map any
        | none =>
          match objectUnder "not" members with
          | some part => part.map not
          | none =>
            match members.lookup "property", members.lookup "value" with
            | some (.string name), some value => some (property name (.ofJson value))
            | _, _ => none
    decoded.getD (unknown (.object members))
  | raw => unknown raw

def ofItems : List Json → List Condition
  | [] => []
  | item :: rest => ofJson item :: ofItems rest

/-- The conditions in the list under a key; `some none` if no list is there. -/
def listUnder (key : String) : List (String × Json) → Option (Option (List Condition))
  | [] => none
  | (k, value) :: rest =>
    if key == k then
      match value with
      | .array items => some (some (ofItems items))
      | _ => some none
    else
      listUnder key rest

/-- The condition in the object under a key; `some none` if no object is there. -/
def objectUnder (key : String) : List (String × Json) → Option (Option Condition)
  | [] => none
  | (k, value) :: rest =>
    if key == k then
      if value.isObject then some (some (ofJson value)) else some none
    else
      objectUnder key rest

end

mutual

def holds (event : Event) : Condition → Bool
  | all parts => holdsAll event parts
  | any parts => holdsAny event parts
  | not part => !holds event part
  | property name comparison => comparison.accepts (event.properties.get? name)
  | unknown _ => false

def holdsAll (event : Event) : List Condition → Bool
  | [] => true
  | part :: rest => holds event part && holdsAll event rest

def holdsAny (event : Event) : List Condition → Bool
  | [] => false
  | part :: rest => holds event part || holdsAny event rest

end

/-- Whether the node itself, without its parts, can be used in a rule. -/
def check : Condition → Except RuleFault Unit
  | all parts => if parts.isEmpty then .error (.emptyClause "and") else .ok ()
  | any parts => if parts.isEmpty then .error (.emptyClause "or") else .ok ()
  | not _ => .ok ()
  | property name _ => if name.isEmpty then .error .emptyPropertyName else .ok ()
  | unknown raw => .error (.unknownMatch raw)

end Condition

end EventGate
