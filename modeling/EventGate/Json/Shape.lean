import EventGate.Json.Basic

/-! # Shapes of documents

What a document is declared to hold. A shape is checked against a value, or against a text while
it is read; both give the value in its normal form, in which a record is an object that has known
members only.
-/

namespace EventGate

/-- A declared kind of JSON value. -/
inductive Shape where
  /-- Any value. -/
  | any
  | text
  /-- An unsigned whole number of 64 bits. -/
  | natural
  | real
  /-- One word out of a list, alone or as the key of an object whose only member is null. -/
  | word (choices : List String)
  /-- A value or null. -/
  | optional (shape : Shape)
  | list (shape : Shape)
  /-- An object with any members. -/
  | map
  /-- An object with named fields, or the array of their values in the declared order. Each field
  has its name, its shape, and whether it must be given. -/
  | record (fields : List (String × Shape × Bool))

namespace Shape

mutual

/-- The normal form of a value that has the shape. -/
def conform? : Shape → Json → Option Json
  | any, value => some value
  | text, value => value.string?.map .string
  | natural, value => value.natural?.map fun n => .number (.whole n.toNat)
  | real, value => value.binary?.map fun _ => value
  | word choices, .string s => if s ∈ choices then some (.string s) else none
  | word choices, .object [(s, .null)] => if s ∈ choices then some (.string s) else none
  | word _, _ => none
  | optional _, .null => some .null
  | optional shape, value => conform? shape value
  | list shape, value => value.items?.bind fun items => (conformItems? shape items).map .array
  | map, value => value.members?.map .object
  | record fields, .object members => (conformFields? fields members).map Json.ofMembers
  | record fields, .array items => (conformRow? fields items).map Json.ofMembers
  | record _, _ => none

def conformItems? (shape : Shape) : List Json → Option (List Json)
  | [] => some []
  | item :: rest =>
    (conform? shape item).bind fun item =>
      (conformItems? shape rest).map fun rest => item :: rest

/-- The members under the names of the fields; other members are passed over. -/
def conformFields? : List (String × Shape × Bool) → List (String × Json) →
    Option (List (String × Json))
  | [], _ => some []
  | (name, shape, required) :: fields, members =>
    match members.lookup name with
    | some value =>
      (conform? shape value).bind fun value =>
        (conformFields? fields members).map fun rest => (name, value) :: rest
    | none => if required then none else conformFields? fields members

def conformRow? : List (String × Shape × Bool) → List Json → Option (List (String × Json))
  | [], [] => some []
  | [], _ :: _ => none
  | (name, shape, _) :: fields, item :: items =>
    (conform? shape item).bind fun value =>
      (conformRow? fields items).map fun rest => (name, value) :: rest
  | (_, _, required) :: fields, [] => if required then none else conformRow? fields []

end

end Shape

end EventGate
