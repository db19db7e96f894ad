/-! # Buffered writing

Small texts wait until a bounded number of bytes is together; a text that does not fit drives out
what waits, and one as long as the buffer is not kept waiting at all.
-/

namespace EventGate.Buffer

/-- What is written now, and what waits, when a text comes to a buffer. -/
def add (capacity : Nat) (waiting text : String) : String × String :=
  let spare := capacity - waiting.utf8ByteSize
  if text.utf8ByteSize < spare then
    ("", waiting ++ text)
  else
    let (written, waiting) := if spare < text.utf8ByteSize then (waiting, "") else ("", waiting)
    if capacity ≤ text.utf8ByteSize then (written ++ waiting ++ text, "")
    else (written, waiting ++ text)

/-- Nothing is lost and nothing changes places. -/
theorem add_fst_append_snd (capacity : Nat) (waiting text : String) :
    (add capacity waiting text).1 ++ (add capacity waiting text).2 = waiting ++ text := by
  unfold add
  dsimp only
  split
  · simp
  · split <;> split <;> simp

end EventGate.Buffer
