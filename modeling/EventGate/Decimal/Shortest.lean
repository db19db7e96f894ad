import EventGate.Decimal.Binary64

/-! # The fewest digits that read back

A finite number is written with the fewest decimal digits that round to it again, and of those with
the digits nearest to it. The search tests, digit count by digit count, the two neighbours of the
number on the decimal grid. Where the number lies half-way between them a format says which one it
wants.
-/

namespace EventGate

structure Decimal where
  digits : Nat
  exponent : Int
deriving DecidableEq, Repr

/-- Which of two neighbours stands for a number half-way between them. -/
inductive Halves where
  | toEven
  | upward
deriving DecidableEq, Repr

/-- The whole number nearest to `num / den`; a half goes up. -/
def roundHalfUp (num den : Nat) : Nat :=
  (2 * num + den) / (2 * den)

theorem roundHalfUp_one (n : Nat) : roundHalfUp n 1 = n := by
  unfold roundHalfUp
  omega

def Halves.round (halves : Halves) (num den : Nat) : Nat :=
  match halves with
  | toEven => roundHalfEven num den
  | upward => roundHalfUp num den

namespace Decimal

def powerOfTen (exponent : Int) : Nat × Nat :=
  match exponent with
  | .ofNat n => (Nat.pow 10 n, 1)
  | .negSucc n => (1, Nat.pow 10 (n + 1))

def stripZeros (digits : Nat) (exponent : Int) : Nat → Decimal
  | 0 => ⟨digits, exponent⟩
  | fuel + 1 =>
    if digits ≠ 0 ∧ digits % 10 = 0 then stripZeros (digits / 10) (exponent + 1) fuel
    else ⟨digits, exponent⟩

end Decimal

namespace Magnitude

/-- A magnitude between the two ends of the interval that rounds to it, all in quarter units; the
ends belong to the interval when the significand is even. -/
structure Rounding where
  low : Nat
  value : Nat
  high : Nat
  closed : Bool

def rounding (m : Magnitude) : Rounding where
  low :=
    (4 * m.significand - if m.significand = leastNormal ∧ 0 < m.scale then 1 else 2) <<< m.scale
  value := 4 * m.units
  high := (4 * m.significand + 2) <<< m.scale
  closed := m.significand % 2 == 0

def quarters : Nat := 4 * one

/-- The digits on the grid of step `10 ^ exponent` that round to the magnitude: of its two
neighbours the nearer one that does. -/
def Rounding.gridDigits? (r : Rounding) (halves : Halves) (exponent : Int) : Option Nat :=
  let power := Decimal.powerOfTen exponent
  let step := quarters * power.1
  let scaled := r.value * power.2
  let below := scaled / step
  let rounds (digits : Nat) : Bool :=
    if r.closed then
      decide (r.low * power.2 ≤ digits * step) && decide (digits * step ≤ r.high * power.2)
    else
      decide (r.low * power.2 < digits * step) && decide (digits * step < r.high * power.2)
  match rounds below, rounds (below + 1) with
  | false, false => none
  | true, false => some below
  | false, true => some (below + 1)
  | true, true => some (halves.round scaled step)

/-- The first count of digits whose grid has a number that rounds to the magnitude. -/
def Rounding.search (r : Rounding) (halves : Halves) (exponent : Int) : Nat → Decimal
  | 0 => ⟨r.value / quarters, 0⟩
  | fuel + 1 =>
    match r.gridDigits? halves exponent with
    | some digits => Decimal.stripZeros digits exponent 20
    | none => r.search halves (exponent - 1) fuel

/-- The power of ten of the first digit, from a lower bound for it. -/
def leadingExponent (quartersOf : Nat) (bound : Int) : Nat → Int
  | 0 => bound
  | fuel + 1 =>
    let power := Decimal.powerOfTen (bound + 1)
    if quarters * power.1 ≤ quartersOf * power.2 then leadingExponent quartersOf (bound + 1) fuel
    else bound

/-- The shortest decimal that rounds to a magnitude. -/
def shortest (halves : Halves) (m : Magnitude) : Decimal :=
  if m.significand = 0 then ⟨0, 0⟩
  else
    let r := m.rounding
    let bound := ((r.value.log2 : Int) - 1076) * 30103 / 100000 - 1
    r.search halves (leadingExponent r.value bound 4) 17

end Magnitude

end EventGate
