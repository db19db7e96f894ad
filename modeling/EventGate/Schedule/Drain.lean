import EventGate.Schedule.Scheduler

/-! # Draining the scheduler

An orderly end: future runs are cancelled, and the work under way is waited for, one job after
another. A drain takes over what it waits for, and it may be given up at any wait.
-/

namespace EventGate

/-- What a drain still has to do: end the ticker of a task, wait for the latest run of a task, wait
for jobs, or take over the jobs that run once. -/
inductive DrainStep where
  | ticker (task : Nat)
  | run (task : Nat)
  | jobs (jobs : List Nat)
  | pending
deriving DecidableEq, Repr

/-- The steps of a drain, the one it is at first. -/
abbrev Drain := List DrainStep

namespace Drain

/-- Cancels a task and waits for what is under way of it. -/
def ofTask (task : Nat) : Drain := [.ticker task, .run task]

end Drain

namespace Clockwork

variable {β σ : Type}

def unfinished (c : Clockwork β σ) (jobs : List Nat) : List Nat :=
  jobs.dropWhile c.agenda.isOver

def takeTicker (c : Clockwork β σ) (task : Nat) : List Nat × Clockwork β σ :=
  match c.task? task with
  | none => ([], c)
  | some t =>
    (if t.holdsTicker then [t.ticker] else [],
      c.modifyTask task fun t => { t with holdsTicker := false })

def takeRun (c : Clockwork β σ) (task : Nat) : List Nat × Clockwork β σ :=
  match c.task? task with
  | none => ([], c)
  | some t => (t.run.toList, c.modifyTask task fun t => { t with run := none })

def takePending (c : Clockwork β σ) : List Nat × Clockwork β σ :=
  (c.scheduler.pending, { c with scheduler := { c.scheduler with pending := [] } })

/-- Goes on with a drain as far as it gets without waiting. -/
def proceed : Drain → Clockwork β σ → Drain × Clockwork β σ
  | [], c => ([], c)
  | step :: rest, c =>
    let (jobs, c) : List Nat × Clockwork β σ :=
      match step with
      | .ticker task => (c.cancel task).takeTicker task
      | .run task => c.takeRun task
      | .jobs jobs => (jobs, c)
      | .pending => c.takePending
    match c.unfinished jobs with
    | [] => proceed rest c
    | left => (.jobs left :: rest, c)

def awaited? : Drain → Option Nat
  | .jobs (job :: _) :: _ => some job
  | _ => none

/-- Begins to shut the scheduler down: no work is taken any more, and the tasks are taken over. -/
def beginShutdown (c : Clockwork β σ) : Drain × Clockwork β σ :=
  ((c.scheduler.held.map Drain.ofTask).flatten ++ [.pending],
    { c with scheduler := { c.scheduler with disposed := true, held := [] } })

/-- Goes through a whole drain; the others get their turns at every wait. -/
def drainWaits (body : Body β σ) : Nat → Drain → Clockwork β σ → Clockwork β σ
  | 0, _, c => c
  | fuel + 1, todo, c =>
    let (todo, c) := proceed todo c
    match awaited? todo with
    | none => c
    | some job => drainWaits body fuel todo (c.await body fun c => c.agenda.isOver job)

/-- Goes through a whole drain: two waits for every task, and one for every job that runs once. -/
def drainAll (body : Body β σ) (c : Clockwork β σ) (todo : Drain) : Clockwork β σ :=
  drainWaits body (2 * c.agenda.started + 2) todo c

@[simp] theorem proceed_nil (c : Clockwork β σ) : proceed [] c = ([], c) := rfl

end Clockwork

end EventGate
