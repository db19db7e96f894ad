/-! # Defects of JSON texts

Why a text cannot be read as a JSON value of the wanted shape.
-/

namespace EventGate

inductive JsonDefect where
  /-- The text ends too early. -/
  | truncated
  /-- The text is no JSON, or holds a number out of range or too deep a nesting. -/
  | malformed
  /-- The text is JSON so far, but not what was asked for. -/
  | mismatched
deriving DecidableEq, Repr

end EventGate
