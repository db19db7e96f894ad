import EventGate.Json.Basic

/-! # Reading members

The members of an object by key, with a value to go on with where there is none of the kind.
-/

namespace EventGate.Json

def field (value : Json) (key : String) : Json :=
  (value.get? key).getD null

def has (value : Json) (key : String) : Bool :=
  (value.get? key).isSome

def text (value : Json) : String :=
  value.string?.getD ""

def texts (value : Json) : List String :=
  (value.items?.getD []).filterMap string?

def textAt? (value : Json) (key : String) : Option String :=
  (value.field key).string?

def textAt (value : Json) (key : String) : String :=
  (value.field key).text

def flagAt (value : Json) (key : String) : Bool :=
  (value.field key).bool?.getD false

def itemsAt (value : Json) (key : String) : List Json :=
  (value.field key).items?.getD []

def textsAt (value : Json) (key : String) : List String :=
  (value.field key).texts

def nat? : Json → Option Nat
  | number (.whole n) => some n.toNat
  | _ => none

def natAt (value : Json) (key : String) (otherwise : Nat) : Nat :=
  (value.field key).nat?.getD otherwise

def item (value : Json) (index : Nat) : Json :=
  ((value.items?.getD [])[index]?).getD null

def ofOption {α : Type} (f : α → Json) : Option α → Json
  | some a => f a
  | none => null

def ofTexts (texts : List String) : Json :=
  array (texts.map string)

mutual

def mapTexts (f : String → String) : Json → Json
  | string s => string (f s)
  | array items => array (mapItems f items)
  | object members => object (mapMembers f members)
  | other => other

def mapItems (f : String → String) : List Json → List Json
  | [] => []
  | item :: rest => mapTexts f item :: mapItems f rest

def mapMembers (f : String → String) : List (String × Json) → List (String × Json)
  | [] => []
  | (key, value) :: rest => (key, mapTexts f value) :: mapMembers f rest

end

end EventGate.Json
