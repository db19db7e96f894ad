import EventGate.Text.CodeRange

/-! # Blanks

The white-space characters and the removal of those at the two ends of a text.
-/

namespace EventGate.Text

def blankRanges : CodeRanges := [
  (0x9, 0xD), (0x20, 0x20), (0x85, 0x85), (0xA0, 0xA0), (0x1680, 0x1680), (0x2000, 0x200A),
  (0x2028, 0x2029), (0x202F, 0x202F), (0x205F, 0x205F), (0x3000, 0x3000)]

def isBlank (c : Char) : Bool :=
  blankRanges.contains c

theorem isBlank_space : isBlank ' ' = true := by decide

/-- The characters left when those that satisfy `drop` are taken off both ends. -/
def stripEnds (drop : Char → Bool) (chars : List Char) : List Char :=
  ((chars.dropWhile drop).reverse.dropWhile drop).reverse

@[simp] theorem stripEnds_nil (drop : Char → Bool) : stripEnds drop [] = [] := rfl

def trim (text : String) : String :=
  String.ofList (stripEnds isBlank text.toList)

end EventGate.Text
