import EventGate.Decimal.Shortest

/-! # Number layouts

How the shortest digits of a number are chosen and set: what becomes of halves, which powers of ten
are written out in full, and what marks a whole number and an exponent. Two layouts are in use, one
for plain text and one for JSON.
-/

namespace EventGate

/-- The decisions of a number format. `written` holds the powers of ten of first digits for which
the digits are written out in full; beyond them an exponent is set. -/
structure NumberLayout where
  halves : Halves
  written : Int → Bool
  wholeSuffix : String

namespace NumberLayout

/-- Plain text takes halves upward, never has an exponent and shows a whole number without a
point. -/
def plain : NumberLayout where
  halves := .upward
  written := fun _ => true
  wholeSuffix := ""

/-- JSON takes halves to the even digit, marks a whole number by `.0`, and sets an exponent from
`10 ^ 16` on and below `10 ^ -5`. -/
def json : NumberLayout where
  halves := .toEven
  written := fun exponent => decide (-5 ≤ exponent) && decide (exponent < 16)
  wholeSuffix := ".0"

end NumberLayout

def zeros (count : Nat) : List Char :=
  List.replicate count '0'

def intText : Int → String
  | .ofNat n => n.repr
  | .negSucc n => "-" ++ (n + 1).repr

namespace Decimal

/-- The digits written out in full around the point. -/
def positional (layout : NumberLayout) (digits : List Char) (exponent : Int) : String :=
  match exponent with
  | .ofNat n => String.ofList (digits ++ zeros n) ++ layout.wholeSuffix
  | .negSucc n =>
    let places := n + 1
    if places < digits.length then
      String.ofList (digits.take (digits.length - places) ++ '.' ::
        digits.drop (digits.length - places))
    else
      String.ofList (['0', '.'] ++ zeros (places - digits.length) ++ digits)

def scientific (digits : List Char) (leading : Int) : String :=
  let mantissa :=
    match digits with
    | [] => []
    | [d] => [d]
    | d :: rest => d :: '.' :: rest
  let sign := if leading < 0 then "e-" else "e+"
  String.ofList mantissa ++ sign ++ leading.natAbs.repr

def text (layout : NumberLayout) (d : Decimal) : String :=
  let digits := Nat.toDigits 10 d.digits
  let leading := d.exponent + digits.length - 1
  if layout.written leading then positional layout digits d.exponent
  else scientific digits leading

end Decimal

def Binary64.text (layout : NumberLayout) : Binary64 → String
  | nan => "NaN"
  | infinite negative => if negative then "-inf" else "inf"
  | finite negative m => (if negative then "-" else "") ++ (m.shortest layout.halves).text layout

end EventGate
