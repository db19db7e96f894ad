import EventGate.Schedule.Agenda
import EventGate.Schedule.Guard
import EventGate.Schedule.Plan

/-! # The scheduler

Work in the background: jobs that run once, and tasks that run again and again. A task has a ticker,
which starts a run each time it wakes up, unless the run before is still under way.
-/

namespace EventGate

/-- A task that runs again and again. `ticker` is the job of its ticker, which its holder may still
wait for if `holdsTicker`, and `run` the job of its latest run. -/
structure TimedTask (β : Type) where
  plan : RunPlan
  body : β
  cancelled : Bool
  guard : Guard
  ticker : Nat
  holdsTicker : Bool
  run : Option Nat

/-- The scheduler: the jobs it holds that run once, and the tasks it holds among all tasks. -/
structure Scheduler (β : Type) where
  disposed : Bool
  pending : List Nat
  held : List Nat
  tasks : List (TimedTask β)

def Scheduler.create {β : Type} : Scheduler β := ⟨false, [], [], []⟩

/-- The work on the agenda: a ticker before and after its wait, and a body, which may be a run of a
task. -/
inductive Work (β : Type) where
  | rest (task delay : Nat)
  | tick (task : Nat)
  | body (task : Option Nat) (body : β)

/-- The scheduler at work, with the state that its work acts on. -/
structure Clockwork (β σ : Type) where
  agenda : Agenda (Work β)
  scheduler : Scheduler β
  state : σ

namespace Clockwork

variable {β σ : Type}

def create (state : σ) : Clockwork β σ :=
  ⟨.create, .create, state⟩

def now (c : Clockwork β σ) : Nat :=
  c.agenda.now

def task? (c : Clockwork β σ) (task : Nat) : Option (TimedTask β) :=
  c.scheduler.tasks[task]?

def modifyTask (c : Clockwork β σ) (task : Nat) (change : TimedTask β → TimedTask β) :
    Clockwork β σ :=
  { c with scheduler := { c.scheduler with tasks := c.scheduler.tasks.modify task change } }

def spawn (c : Clockwork β σ) (task : Option Nat) (body : β) : Nat × Clockwork β σ :=
  let (job, agenda) := c.agenda.start (.body task body)
  (job, { c with agenda })

/-- Work that runs once; after disposal it is forgotten. -/
def schedule (c : Clockwork β σ) (body : β) : Clockwork β σ :=
  if c.scheduler.disposed then c
  else
    let (job, c) := c.spawn none body
    let live := c.scheduler.pending.filter fun job => !c.agenda.isOver job
    { c with scheduler := { c.scheduler with pending := live ++ [job] } }

def scheduleTimed (c : Clockwork β σ) (delay : Nat) (plan : RunPlan) (body : β) :
    Nat × Clockwork β σ :=
  let number := c.scheduler.tasks.length
  let (ticker, agenda) := c.agenda.start (.rest number delay)
  let task : TimedTask β := {
    plan, body, ticker
    cancelled := c.scheduler.disposed || !plan.enabled
    guard := .idle
    holdsTicker := true
    run := none }
  (number, { c with
    agenda
    scheduler := { c.scheduler with
      held := c.scheduler.held ++ [number]
      tasks := c.scheduler.tasks ++ [task] } })

/-- Stops future runs of a task. A run under way goes on. -/
def cancel (c : Clockwork β σ) (task : Nat) : Clockwork β σ :=
  match c.task? task with
  | none => c
  | some t =>
    let c := c.modifyTask task fun t => { t with cancelled := true }
    { c with agenda := c.agenda.wake t.ticker }

def drop (c : Clockwork β σ) (job : Nat) : Clockwork β σ :=
  { c with agenda := c.agenda.drop job }

/-- Drops what is left of a task: its ticker and its latest run, as far as they are held. -/
def abort (c : Clockwork β σ) (task : Nat) : Clockwork β σ :=
  let c := c.cancel task
  match c.task? task with
  | none => c
  | some t =>
    let c := c.modifyTask task fun t => { t with holdsTicker := false, run := none }
    let c := if t.holdsTicker then c.drop t.ticker else c
    match t.run with
    | some job => c.drop job
    | none => c

/-- Drops all work that is held, the first time. -/
def dispose (c : Clockwork β σ) : Clockwork β σ :=
  if c.scheduler.disposed then c
  else
    let pending := c.scheduler.pending
    let held := c.scheduler.held
    let c := { c with
      scheduler := { c.scheduler with disposed := true, pending := [], held := [] } }
    held.foldl abort (pending.foldl drop c)

@[simp] theorem dispose_of_disposed {c : Clockwork β σ} (h : c.scheduler.disposed = true) :
    c.dispose = c := by
  simp [dispose, h]

/-! ## Turns -/

/-- What bodies do when they get a turn: they act, and go on waiting unless they are over. -/
abbrev Body (β σ : Type) := Nat → β → Clockwork β σ → Clockwork β σ × Option (Due × β)

def tick (c : Clockwork β σ) (task : Nat) : Clockwork β σ × Option (Due × Work β) :=
  match c.task? task with
  | none => (c, none)
  | some t =>
    if t.cancelled then (c, none)
    else
      let (free, guard) := t.guard.acquire
      let c :=
        if free then
          let (job, c) := c.spawn (some task) t.body
          c.modifyTask task fun t => { t with guard, run := some job }
        else c
      let delay := t.plan.delay 0
      (c, some (if delay = 0 then .turn else .at (c.now + delay), .tick task))

def rest (c : Clockwork β σ) (task delay : Nat) : Clockwork β σ × Option (Due × Work β) :=
  match c.task? task with
  | none => (c, none)
  | some t =>
    if t.cancelled then (c, none)
    else if delay = 0 then c.tick task
    else (c, some (.at (c.now + delay), .tick task))

def releaseGuard (c : Clockwork β σ) (task : Option Nat) : Clockwork β σ :=
  match task with
  | some task => c.modifyTask task fun t => { t with guard := t.guard.release }
  | none => c

def act (body : Body β σ) (c : Clockwork β σ) (job : Nat) :
    Work β → Clockwork β σ × Option (Due × Work β)
  | .rest task delay => c.rest task delay
  | .tick task => c.tick task
  | .body task b =>
    match body job b c with
    | (c, some (due, b)) => (c, some (due, .body task b))
    | (c, none) => (c.releaseGuard task, none)

def putAway (c : Clockwork β σ) : Work β → Clockwork β σ
  | .body task _ => c.releaseGuard task
  | _ => c

def turn (body : Body β σ) (c : Clockwork β σ) (entry : JobEntry (Work β)) : Clockwork β σ :=
  let (c, after) :=
    if entry.dropped then (c.putAway entry.work, none) else act body c entry.job entry.work
  match after with
  | some (due, work) => { c with agenda := c.agenda.suspend entry.job due work }
  | none => { c with agenda := c.agenda.finish entry.job }

/-- The first turn of work that is not on the agenda yet. -/
def runNow (body : Body β σ) (c : Clockwork β σ) (work : β) : Nat × Clockwork β σ :=
  let (job, agenda) := c.agenda.reserve
  (job, turn body { c with agenda } ⟨job, .turn, false, .body none work⟩)

/-- Gives turns until the clock shows `target`. What is due then has to wait for a later turn. -/
def runTo (body : Body β σ) (target : Nat) : Nat → Clockwork β σ → Clockwork β σ
  | 0, c => c
  | fuel + 1, c =>
    match c.agenda.take? with
    | some (entry, agenda) => runTo body target fuel (turn body { c with agenda } entry)
    | none =>
      if c.agenda.waitsForDisk then
        runTo body target fuel { c with agenda := c.agenda.answerDisk }
      else
        match c.agenda.nextTime? with
        | some time =>
          if time < target then runTo body target fuel { c with agenda := c.agenda.moveTo time }
          else { c with agenda := c.agenda.moveTo target }
        | none => { c with agenda := c.agenda.moveTo target }

/-- Gives turns until `isReady`, which is looked at when no work can go on. -/
def runUntil (body : Body β σ) (isReady : Clockwork β σ → Bool) :
    Nat → Clockwork β σ → Clockwork β σ
  | 0, c => c
  | fuel + 1, c =>
    match c.agenda.take? with
    | some (entry, agenda) => runUntil body isReady fuel (turn body { c with agenda } entry)
    | none =>
      if isReady c then c
      else if c.agenda.waitsForDisk then
        runUntil body isReady fuel { c with agenda := c.agenda.answerDisk }
      else
        match c.agenda.nextTime? with
        | some time => runUntil body isReady fuel { c with agenda := c.agenda.moveTo time }
        | none => c

def turnLimit (c : Clockwork β σ) (time : Nat) : Nat :=
  (time + 16) * (c.agenda.entries.length + 16) * 16

/-- Lets some time pass. A wait of no time gives nobody a turn. -/
def advance (body : Body β σ) (c : Clockwork β σ) (time : Nat) : Clockwork β σ :=
  if time = 0 then c else runTo body (c.now + time) (c.turnLimit time) c

def patience : Nat := 1000000

/-- Waits until `isReady`; nobody gets a turn if it is ready at once. -/
def await (body : Body β σ) (isReady : Clockwork β σ → Bool) (c : Clockwork β σ) :
    Clockwork β σ :=
  if isReady c then c else runUntil body isReady patience c

/-- Gives a turn to all work that can go on now. -/
def settle (body : Body β σ) (c : Clockwork β σ) : Clockwork β σ :=
  runUntil body (fun _ => true) patience c

end Clockwork

end EventGate
