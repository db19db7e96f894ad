/-! # Numbers of 64 bits

A finite number is a sign and a whole count of units, where the unit is the smallest positive
number. The count has 53 significant binary digits at most, so every number has one form, and
comparison, rounding and arithmetic are exact computations on natural numbers.
-/

namespace EventGate

/-- The least significand with all of its 53 binary digits. -/
def leastNormal : Nat := 0x10000000000000

/-- The absolute value `significand * 2 ^ scale` in units of `2 ^ -1074`. -/
structure Magnitude where
  significand : Nat
  scale : Nat
  significand_lt : significand < 2 * leastNormal
  normal : scale = 0 ∨ leastNormal ≤ significand
  scale_le : scale ≤ 2045
deriving DecidableEq

namespace Magnitude

def one : Nat := 1 <<< 1074

def zero : Magnitude := ⟨0, 0, by decide, by decide, by decide⟩

def units (m : Magnitude) : Nat :=
  m.significand <<< m.scale

@[simp] theorem units_zero : zero.units = 0 := rfl

def ofParts? (significand scale : Nat) : Option Magnitude :=
  if h : significand < 2 * leastNormal ∧ (scale = 0 ∨ leastNormal ≤ significand) ∧ scale ≤ 2045 then
    some ⟨significand, scale, h.1, h.2.1, h.2.2⟩
  else
    none

theorem ofParts?_self (m : Magnitude) : ofParts? m.significand m.scale = some m := by
  simp only [ofParts?, m.significand_lt, m.normal, m.scale_le, and_self, dite_true]

end Magnitude

/-- The whole number nearest to `num / den`; a half goes to the even neighbour. -/
def roundHalfEven (num den : Nat) : Nat :=
  let quotient := num / den
  let twice := 2 * (num % den)
  if twice < den then quotient
  else if den < twice then quotient + 1
  else if quotient % 2 = 0 then quotient
  else quotient + 1

theorem roundHalfEven_one (n : Nat) : roundHalfEven n 1 = n := by
  simp [roundHalfEven, Nat.mod_one]

/-- The magnitude nearest to `num / den` units; none if it lies beyond the greatest. -/
def Magnitude.nearest? (num den : Nat) : Option Magnitude :=
  let scale := (num / den).log2 - 52
  let significand := roundHalfEven num (den <<< scale)
  if significand < 2 * leastNormal then ofParts? significand scale
  else ofParts? leastNormal (scale + 1)

/-- A binary number of 64 bits; all that is not a number is one value. -/
inductive Binary64 where
  | nan
  | infinite (negative : Bool)
  | finite (negative : Bool) (magnitude : Magnitude)
deriving DecidableEq

namespace Binary64

def zero : Binary64 := .finite false .zero

def isNaN : Binary64 → Bool
  | nan => true
  | _ => false

def isFinite : Binary64 → Bool
  | finite .. => true
  | _ => false

theorem isFinite_iff (x : Binary64) :
    x.isFinite = true ↔ ∃ negative magnitude, x = .finite negative magnitude := by
  cases x <;> simp [isFinite]

def neg : Binary64 → Binary64
  | nan => nan
  | infinite negative => infinite !negative
  | finite negative m => finite (!negative) m

def signedUnits (negative : Bool) (m : Magnitude) : Int :=
  if negative then -(m.units : Int) else m.units

/-- Numeric equality: the two zeros are equal, and nothing equals a value that is no number. -/
def same : Binary64 → Binary64 → Bool
  | finite s m, finite t n => signedUnits s m == signedUnits t n
  | infinite s, infinite t => s == t
  | _, _ => false

/-- Numeric order, under which a value that is no number has no neighbours. -/
def less : Binary64 → Binary64 → Bool
  | finite s m, finite t n => decide (signedUnits s m < signedUnits t n)
  | infinite s, infinite t => s && !t
  | infinite s, finite .. => s
  | finite .., infinite t => !t
  | _, _ => false

@[simp] theorem less_self (x : Binary64) : x.less x = false := by
  cases x <;> simp [less]

theorem same_symm (x y : Binary64) : x.same y = y.same x := by
  cases x <;> cases y <;> simp only [same, Bool.beq_comm]

def nearest (negative : Bool) (num den : Nat) : Binary64 :=
  match Magnitude.nearest? num den with
  | some m => finite negative m
  | none => infinite negative

def ofInt (n : Int) : Binary64 :=
  nearest (decide (n < 0)) (n.natAbs * Magnitude.one) 1

def ofNat (n : Nat) : Binary64 :=
  nearest false (n * Magnitude.one) 1

def wholeValue? : Binary64 → Option Int
  | finite negative m =>
    if m.units % Magnitude.one = 0 then
      let n := m.units / Magnitude.one
      some (if negative then -(n : Int) else n)
    else
      none
  | _ => none

end Binary64

namespace Magnitude

def mul? (a b : Magnitude) : Option Magnitude :=
  nearest? (a.units * b.units) one

def div? (a b : Magnitude) : Option Magnitude :=
  nearest? (a.units * one) b.units

end Magnitude

end EventGate
