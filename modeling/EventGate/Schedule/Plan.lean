/-! # Plans of periodic work

How long periodic work waits from one run to the next: an interval, and a random share of a bound
on top of it, so that hosts that start together do not run together.
-/

namespace EventGate

/-- When periodic work runs; times are milliseconds. -/
structure RunPlan where
  interval : Nat
  jitter : Nat
  enabled : Bool
deriving DecidableEq, Repr

namespace RunPlan

def standard : RunPlan := ⟨21600000, 600000, true⟩

def delay (plan : RunPlan) (draw : Nat) : Nat :=
  plan.interval + draw % (plan.jitter + 1)

theorem interval_le_delay (plan : RunPlan) (draw : Nat) : plan.interval ≤ plan.delay draw :=
  Nat.le_add_right _ _

theorem delay_le (plan : RunPlan) (draw : Nat) :
    plan.delay draw ≤ plan.interval + plan.jitter :=
  Nat.add_le_add_left (Nat.le_of_lt_succ (Nat.mod_lt _ (Nat.succ_pos _))) _

@[simp] theorem delay_zero (plan : RunPlan) : plan.delay 0 = plan.interval := by
  simp [delay]

end RunPlan

end EventGate
