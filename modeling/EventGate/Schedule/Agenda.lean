/-! # The agenda

Work that waits for its turn. The work that can go on takes turns in the order in which it became
able to; the clock moves only when no work can.
-/

namespace EventGate

/-- What a piece of work waits for: its turn, an answer of the file system, a time, the end of
another job but not beyond a deadline, or a call. -/
inductive Due where
  | turn
  | disk
  | at (time : Nat)
  | after (job : Nat) (deadline : Option Nat)
  | call
deriving DecidableEq, Repr

namespace Due

def time? : Due → Option Nat
  | .at time => some time
  | after _ deadline => deadline
  | _ => none

def isOverAt (due : Due) (now : Nat) : Bool :=
  match due.time? with
  | some time => decide (time ≤ now)
  | none => false

end Due

/-- A job on the agenda. A dropped job only takes the turn in which it is put away. -/
structure JobEntry (ω : Type) where
  job : Nat
  due : Due
  dropped : Bool
  work : ω

/-- The jobs that are not over, and the time. Jobs are numbered in the order of their start. -/
structure Agenda (ω : Type) where
  now : Nat
  started : Nat
  entries : List (JobEntry ω)

namespace Agenda

variable {ω : Type}

def create : Agenda ω := ⟨0, 0, []⟩

/-- A new job, which gets its first turn after all others that can go on. -/
def start (agenda : Agenda ω) (work : ω) : Nat × Agenda ω :=
  (agenda.started, { agenda with
    started := agenda.started + 1
    entries := agenda.entries ++ [⟨agenda.started, .turn, false, work⟩] })

/-- A number for a job that takes its turns elsewhere. -/
def reserve (agenda : Agenda ω) : Nat × Agenda ω :=
  (agenda.started, { agenda with started := agenda.started + 1 })

def suspend (agenda : Agenda ω) (job : Nat) (due : Due) (work : ω) : Agenda ω :=
  { agenda with entries := agenda.entries ++ [⟨job, due, false, work⟩] }

def isOver (agenda : Agenda ω) (job : Nat) : Bool :=
  !agenda.entries.any fun e => e.job == job

/-- Gives a turn to the waiting entries that satisfy `which`, behind those that can go on. -/
def wakeAll (agenda : Agenda ω) (which : JobEntry ω → Bool) : Agenda ω :=
  let isWoken (e : JobEntry ω) : Bool := e.due != .turn && which e
  { agenda with
    entries := agenda.entries.filter (fun e => !isWoken e) ++
      (agenda.entries.filter isWoken).map fun e => { e with due := .turn } }

def wake (agenda : Agenda ω) (job : Nat) : Agenda ω :=
  agenda.wakeAll fun e => e.job == job

/-- Marks a job as one to be put away, at its next turn. -/
def drop (agenda : Agenda ω) (job : Nat) : Agenda ω :=
  let marked := agenda.entries.map fun e => if e.job = job then { e with dropped := true } else e
  wake { agenda with entries := marked } job

def finish (agenda : Agenda ω) (job : Nat) : Agenda ω :=
  agenda.wakeAll fun e =>
    match e.due with
    | .after other _ => other == job
    | _ => false

/-- The first entry that can go on, and the agenda without it. -/
def take? (agenda : Agenda ω) : Option (JobEntry ω × Agenda ω) :=
  (agenda.entries.find? fun e => e.due == .turn).map fun entry =>
    (entry, { agenda with entries := agenda.entries.filter fun e => e.job != entry.job })

def waitsForDisk (agenda : Agenda ω) : Bool :=
  agenda.entries.any fun e => e.due == .disk

def answerDisk (agenda : Agenda ω) : Agenda ω :=
  agenda.wakeAll fun e => e.due == .disk

def nextTime? (agenda : Agenda ω) : Option Nat :=
  (agenda.entries.filterMap fun e => e.due.time?).min?

/-- Moves the clock on; the waits that are over by then end. -/
def moveTo (agenda : Agenda ω) (time : Nat) : Agenda ω :=
  let now := max agenda.now time
  { agenda with now }.wakeAll fun e => e.due.isOverAt now

@[simp] theorem now_wakeAll (agenda : Agenda ω) (which : JobEntry ω → Bool) :
    (agenda.wakeAll which).now = agenda.now := rfl

theorem now_le_moveTo (agenda : Agenda ω) (time : Nat) :
    agenda.now ≤ (agenda.moveTo time).now :=
  Nat.le_max_left _ _

end Agenda

end EventGate
