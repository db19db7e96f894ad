/-! # The window of the rate limit

Events are counted in windows of fixed length. A window starts with the first event that comes
after the one before is over.
-/

namespace EventGate

/-- The start of a window, in milliseconds, and the events counted since. -/
structure RateWindow where
  started : Nat
  count : Nat
deriving DecidableEq, Repr

namespace RateWindow

def create (now : Nat) : RateWindow :=
  ⟨now, 0⟩

/-- Counts an event; tells whether it is within the limit. -/
def enter (window : RateWindow) (now length threshold : Nat) : Bool × RateWindow :=
  let current := if length ≤ now - window.started then create now else window
  let counted := { current with count := current.count + 1 }
  (decide (counted.count ≤ threshold), counted)

theorem enter_of_lt {window : RateWindow} {now length threshold : Nat}
    (h : now - window.started < length) :
    window.enter now length threshold =
      (decide (window.count + 1 ≤ threshold), ⟨window.started, window.count + 1⟩) := by
  simp [enter, Nat.not_le.2 h]

end RateWindow

end EventGate
