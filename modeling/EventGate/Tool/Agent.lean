import EventGate.Event.Input
import EventGate.Service.Live
import EventGate.Tool.Report

/-! # The agent

A service for lines of text: every line is an event, every event that comes through is printed, and
what happens on the way is told beside it.
-/

namespace EventGate

inductive Printed where
  | output (line : String)
  | remark (line : String)
deriving DecidableEq, Repr

namespace Printed

def output? : Printed → Option String
  | output line => some line
  | remark _ => none

def remark? : Printed → Option String
  | output _ => none
  | remark line => some line

end Printed

structure Agent where
  live : Live

namespace Agent

def remarks (lines : List String) : List Printed :=
  lines.map .remark

def rule : String := "================================================="

def greeting : List String :=
  [rule, "  Telemetry Agent - Manifest Driven Pipeline     ", rule, ""]

def configLines (config : Config) : List String :=
  ["Configuration:",
   "  - Manifest source: " ++ config.manifestUrl.getD "(none, local only)",
   "  - Host: " ++ config.hostName ++ " (schema v" ++ config.schema.repr ++ ")",
   "  - Refresh: every " ++ (config.refresh.interval / 1000).repr ++ "s (enabled: " ++
     (if config.refresh.enabled then "true" else "false") ++ ")"] ++
  (match config.log with
   | some log => ["  - File channel: " ++ log.directory]
   | none => []) ++ [""]

def console : HostChannel := ⟨"console", 0, none⟩

def statusLines (session : Session) (status : Status) : List String :=
  ["✓ Session " ++ session.id ++ " started with manifest " ++
     status.version.getD "unversioned" ++ " from " ++ status.origin.text] ++
  (status.dropped.map fun rule => "  - dropped rule " ++ rule.text) ++ [""]

def lastWords (fault : Fault) : List Printed :=
  [.remark ("Error: " ++ fault.message)]

def start (config : Config) (session : Session) (cache : Option Storage) (place : Place)
    (now : Nat) : List Printed × Option Agent :=
  let opening := remarks (greeting ++ configLines config)
  match Service.create config session config.source? cache place now with
  | .error fault =>
    (opening ++
      [.remark ("✗ Failed to initialize telemetry service: " ++ fault.message)] ++
      lastWords fault, none)
  | .ok service =>
    let (_, service) := service.admitChannel ⟨console.id, .default⟩ (.host console)
    match (Live.create service).start with
    | (.error fault, _) => (opening ++ lastWords fault, none)
    | (.ok status, live) =>
      (opening ++ remarks (statusLines session status), some ⟨live⟩)

def consoleLines (outcome : Outcome Sink) : List Printed :=
  outcome.deliveries.filterMap fun delivery =>
    match delivery.sink with
    | .host _ => some (.output (lineOf outcome.event delivery.arguments))
    | .log => none

def droppedLines (outcome : Outcome Sink) : List Printed :=
  if outcome.dropped then
    [.remark ("  - " ++ outcome.event.name ++
      (if outcome.throttled then " throttled" else " dropped"))]
  else []

/-- Takes one line. A blank one is no event, and a fault in one concerns only that line. -/
def take (agent : Agent) (line id : String) (now : Nat) : List Printed × Agent :=
  if (Text.stripEnds Text.isBlank line.toList).isEmpty then ([], agent)
  else
    match (EventInput.parse line).bind fun input => input.toEvent id with
    | .error fault => ([.remark ("✗ Skipping line: " ++ fault.message)], agent)
    | .ok event =>
      match agent.live.service.post now { event with timestamp := now } with
      | .error fault => (lastWords fault, agent)
      | .ok (outcome, service) =>
        (consoleLines outcome ++ droppedLines outcome, ⟨agent.live.setService service⟩)

def statsLines (stats : Stats) : List String :=
  ["", "Pipeline Statistics:",
   "  - Posted: " ++ stats.posted.repr,
   "  - Dropped: " ++ stats.dropped.repr,
   "  - Throttled: " ++ stats.throttled.repr,
   "  - Routed: " ++ stats.routed.repr]

/-- The time in milliseconds in which an agent has to end. -/
def budget : Nat := 5000

def stop (agent : Agent) : List Printed × Nat × Agent :=
  let told := remarks (statsLines agent.live.service.processor.stats)
  match agent.live.disposeWithin budget with
  | (some (.error fault), live) => (told ++ lastWords fault, 1, ⟨live⟩)
  | (_, live) => (told ++ remarks [rule, "  Telemetry Agent Shut Down", rule], 0, ⟨live⟩)

def takeAll (ids : Nat → String) (now : Nat) :
    Nat → List String → Agent → List Printed × Agent
  | _, [], agent => ([], agent)
  | count, line :: rest, agent =>
    let (first, agent) := agent.take line (ids count) now
    let (more, agent) := takeAll ids now (count + 1) rest agent
    (first ++ more, agent)

def run (config : Config) (session : Session) (cache : Option Storage) (place : Place)
    (ids : Nat → String) (now : Nat) (lines : List String) :
    List Printed × Nat × Option Agent :=
  match start config session cache place now with
  | (opening, none) => (opening, 1, none)
  | (opening, some agent) =>
    let (middle, agent) := takeAll ids now 0 lines agent
    let (ending, code, agent) := agent.stop
    (opening ++ middle ++ ending, code, some agent)

end Agent

end EventGate
