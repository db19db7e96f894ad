/-! # The run guard

At most one run of a periodic task is under way. The guard is taken for a run and released after
it; the holder of a token releases the guard when the token is dropped.
-/

namespace EventGate

inductive Guard where
  | idle
  | running
deriving DecidableEq, Repr

namespace Guard

/-- Takes the guard; fails if a run is under way. -/
def acquire : Guard → Bool × Guard
  | idle => (true, running)
  | running => (false, running)

def release (_ : Guard) : Guard :=
  idle

def isRunning (guard : Guard) : Bool :=
  guard == running

@[simp] theorem acquire_snd (guard : Guard) : guard.acquire.2 = running := by
  cases guard <;> rfl

/-- The guard can be taken exactly when no run is under way. -/
theorem acquire_fst (guard : Guard) : guard.acquire.1 = !guard.isRunning := by
  cases guard <;> rfl

end Guard

end EventGate
