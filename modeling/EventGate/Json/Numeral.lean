import EventGate.Decimal.Reader
import EventGate.Json.Basic

/-! # The value of a JSON number

Whole numbers of 64 bits are kept. In any other number the digits that fit into 64 bits are rounded
to a binary number, which is then scaled by its power of ten and rounded again.
-/

namespace EventGate

/-- A number as it is written: digits before the point, digits behind it, and the power of ten. -/
structure Numeral where
  negative : Bool
  whole : List Char
  fraction : Option (List Char)
  exponent : Option Int

namespace Numeral

/-- Takes digits into a number while it fits 64 bits; the digits left over follow. -/
def take64 (n : Nat) : List Char → Nat × List Char
  | [] => (n, [])
  | c :: rest =>
    let next := 10 * n + (c.toNat - '0'.toNat)
    if next < UInt64.size then take64 next rest else (n, c :: rest)

@[simp] theorem take64_nil (n : Nat) : take64 n [] = (n, []) := rfl

def powerOfTen (n : Nat) : Magnitude :=
  (Magnitude.nearest? (Nat.pow 10 n * Magnitude.one) 1).getD .zero

/-- Divides by `10 ^ 308` while the power of ten lies below the table. -/
def shrink (m : Magnitude) (exponent : Int) : Nat → Option (Magnitude × Int)
  | 0 => some (m, exponent)
  | fuel + 1 =>
    if -308 ≤ exponent ∨ m.significand = 0 then some (m, exponent)
    else (m.div? (powerOfTen 308)).bind fun m => shrink m (exponent + 308) fuel

/-- A number of 64 bits scaled by a power of ten; none if it leaves the range. -/
def scaled? (significand : Nat) (exponent : Int) : Option Magnitude :=
  (Magnitude.nearest? (significand * Magnitude.one) 1).bind fun m =>
    if m.significand = 0 then some m
    else if 308 < exponent then none
    else if 0 ≤ exponent then m.mul? (powerOfTen exponent.toNat)
    else
      (shrink m exponent 4).bind fun (m, exponent) =>
        if m.significand = 0 then some m else m.div? (powerOfTen exponent.natAbs)

def value? (n : Numeral) : Option JsonNumber :=
  let (significand, dropped) := take64 0 n.whole
  match n.fraction, n.exponent, dropped with
  | none, none, [] =>
    if !n.negative then some (.whole significand)
    else if 0 < significand ∧ significand ≤ UInt64.size / 2 then
      some (.whole (-(significand : Int)))
    else (scaled? significand 0).map fun m => .real (.finite true m)
  | fraction, exponent, dropped =>
    let fraction := fraction.getD []
    let (significand, unread) := take64 significand fraction
    let places : Int := fraction.length - unread.length
    (scaled? significand (exponent.getD 0 + dropped.length - places)).map fun m =>
      .real (.finite n.negative m)

end Numeral

end EventGate
