import EventGate.Decimal.Binary64

/-! # JSON values

A whole number that fits 64 bits is kept as it is; every other number is binary. The members of an
object are sorted by key, and each key occurs once when the object is made by `ofMembers`.
-/

namespace EventGate

inductive JsonNumber where
  | whole (n : Int)
  | real (x : Binary64)
deriving DecidableEq

namespace JsonNumber

def toBinary : JsonNumber → Binary64
  | whole n => .ofInt n
  | real x => x

/-- The number as an unsigned one of 64 bits, if it is whole and in range. -/
def natural? : JsonNumber → Option UInt64
  | whole n => if 0 ≤ n ∧ n < UInt64.size then some (UInt64.ofNat n.toNat) else none
  | real _ => none

theorem natural?_ofNat (n : UInt64) : (whole n.toNat).natural? = some n := by
  have h := n.toNat_lt_size
  simp only [natural?, Int.toNat_natCast, UInt64.ofNat_toNat]
  rw [if_pos (by omega)]

/-- Equality of numbers; a whole number and a binary one differ. -/
def same : JsonNumber → JsonNumber → Bool
  | whole m, whole n => m == n
  | real x, real y => x.same y
  | _, _ => false

end JsonNumber

inductive Json where
  | null
  | bool (value : Bool)
  | number (value : JsonNumber)
  | string (value : String)
  | array (items : List Json)
  | object (members : List (String × Json))
deriving Inhabited

namespace Json

/-- Puts a member at its place among sorted ones; an equal key is replaced. -/
def insertMember (key : String) (value : Json) :
    List (String × Json) → List (String × Json)
  | [] => [(key, value)]
  | (k, v) :: rest =>
    if key < k then (key, value) :: (k, v) :: rest
    else if key = k then (key, value) :: rest
    else (k, v) :: insertMember key value rest

/-- The object with these members; of equal keys the last one counts. -/
def ofMembers (members : List (String × Json)) : Json :=
  object (members.foldl (fun sorted m => insertMember m.1 m.2 sorted) [])

def ofBinary (x : Binary64) : Json :=
  if x.isFinite then number (.real x) else null

def ofNat (n : Nat) : Json :=
  number (.whole n)

def members? : Json → Option (List (String × Json))
  | object members => some members
  | _ => none

def get? (key : String) : Json → Option Json
  | object members => members.lookup key
  | _ => none

def string? : Json → Option String
  | string s => some s
  | _ => none

def bool? : Json → Option Bool
  | bool b => some b
  | _ => none

def items? : Json → Option (List Json)
  | array items => some items
  | _ => none

def binary? : Json → Option Binary64
  | number n => some n.toBinary
  | _ => none

def natural? : Json → Option UInt64
  | number n => n.natural?
  | _ => none

def isObject : Json → Bool
  | object _ => true
  | _ => false

def strings? (value : Json) : Option (List String) :=
  value.items?.bind fun items => items.mapM string?

mutual

/-- Equality of values, with numeric equality of numbers. -/
def same : Json → Json → Bool
  | null, null => true
  | bool a, bool b => a == b
  | number a, number b => a.same b
  | string a, string b => a == b
  | array a, array b => sameItems a b
  | object a, object b => sameMembers a b
  | _, _ => false

def sameItems : List Json → List Json → Bool
  | [], [] => true
  | a :: as, b :: bs => same a b && sameItems as bs
  | _, _ => false

def sameMembers : List (String × Json) → List (String × Json) → Bool
  | [], [] => true
  | (k, a) :: as, (l, b) :: bs => k == l && same a b && sameMembers as bs
  | _, _ => false

end

end Json

end EventGate
