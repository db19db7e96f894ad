import EventGate.Text.Split

/-! # Lines

The lines of a text. A line ends with a line feed, which a carriage return may precede; the end of
the last line may be missing.
-/

namespace EventGate.Text

def withoutReturn (line : List Char) : List Char :=
  if line.getLast? = some '\r' then line.dropLast else line

def lineChars (chars : List Char) : List (List Char) :=
  let parts := splitChars '\n' chars
  let parts := if parts.getLast? = some [] then parts.dropLast else parts
  parts.map withoutReturn

def lines (text : String) : List String :=
  (lineChars text.toList).map String.ofList

example : lines "" = [] := by decide

example : lines "a\r\n\nb" = ["a", "", "b"] := by decide

end EventGate.Text
