import EventGate.Decimal.Shortest

/-! # Reading a number

The number nearest to a decimal, and the texts that are numbers: a sign, digits with a point
between or beside them, and an exponent; or the words for infinity and for no number.
-/

namespace EventGate

/-- The number nearest to a decimal. Far beyond the range the answer needs no computation. -/
def Binary64.ofDecimal (negative : Bool) (d : Decimal) : Binary64 :=
  if d.digits = 0 then .finite negative .zero
  else if 400 < d.exponent then .infinite negative
  else if d.exponent + (d.digits.log2 / 3 + 1 : Nat) < -400 then .finite negative .zero
  else
    let power := Decimal.powerOfTen d.exponent
    nearest negative (d.digits * power.1 * Magnitude.one) power.2

def digitsValue (digits : List Char) : Nat :=
  digits.foldl (fun n c => 10 * n + (c.toNat - '0'.toNat)) 0

@[simp] theorem digitsValue_nil : digitsValue [] = 0 := rfl

def readDigits? (chars : List Char) : Option Nat :=
  if chars.isEmpty || !chars.all Char.isDigit then none else some (digitsValue chars)

def readInt? : List Char → Option Int
  | '-' :: rest => (readDigits? rest).map fun n => -(n : Int)
  | '+' :: rest => (readDigits? rest).map fun n => (n : Int)
  | chars => (readDigits? chars).map fun n => (n : Int)

/-- What may follow the digits: nothing, or a mark and a power of ten. -/
def readExponent? : List Char → Option Int
  | [] => some 0
  | mark :: rest => if mark = 'e' ∨ mark = 'E' then readInt? rest else none

/-- A decimal without a sign; one digit is needed on either side of the point. -/
def readDecimal? (chars : List Char) : Option Decimal :=
  let whole := chars.takeWhile Char.isDigit
  let rest := chars.dropWhile Char.isDigit
  let (fraction, rest) :=
    match rest with
    | '.' :: rest => (rest.takeWhile Char.isDigit, rest.dropWhile Char.isDigit)
    | rest => ([], rest)
  if whole.isEmpty && fraction.isEmpty then none
  else
    (readExponent? rest).map fun exponent =>
      ⟨digitsValue (whole ++ fraction), exponent - fraction.length⟩

def readUnsigned? (negative : Bool) (chars : List Char) : Option Binary64 :=
  let word := String.ofList (chars.map Char.toLower)
  if word = "nan" then some .nan
  else if word = "inf" ∨ word = "infinity" then some (.infinite negative)
  else (readDecimal? chars).map (Binary64.ofDecimal negative)

def Binary64.ofText? (text : String) : Option Binary64 :=
  match text.toList with
  | '-' :: rest => readUnsigned? true rest
  | '+' :: rest => readUnsigned? false rest
  | chars => readUnsigned? false chars

end EventGate
