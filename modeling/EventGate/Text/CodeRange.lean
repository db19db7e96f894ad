/-! # Ranges of code points

A property of characters is kept as a list of closed ranges of code points.
-/

namespace EventGate.Text

/-- Closed ranges `(first, last)` of code points. -/
abbrev CodeRanges := List (Nat × Nat)

namespace CodeRanges

/-- A character is in the set when one range holds its code point. -/
def contains (ranges : CodeRanges) (c : Char) : Bool :=
  ranges.any fun range => decide (range.1 ≤ c.toNat) && decide (c.toNat ≤ range.2)

theorem contains_iff (ranges : CodeRanges) (c : Char) :
    ranges.contains c = true ↔ ∃ range ∈ ranges, range.1 ≤ c.toNat ∧ c.toNat ≤ range.2 := by
  simp [contains]

@[simp] theorem contains_nil (c : Char) : CodeRanges.contains [] c = false := rfl

end CodeRanges

/-- Every code point lies below the end of the ASCII block. -/
def isAscii (chars : List Char) : Bool :=
  chars.all fun c => decide (c.toNat < 128)

@[simp] theorem isAscii_nil : isAscii [] = true := rfl

theorem isAscii_cons (c : Char) (rest : List Char) :
    isAscii (c :: rest) = (decide (c.toNat < 128) && isAscii rest) := rfl

end EventGate.Text
