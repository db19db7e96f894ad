import EventGate.Event.Input
import EventGate.Pipeline.Gate
import EventGate.Refresh.Storage

/-! # Reports on manifests

What an author of a manifest is told: the rules kept and left out, and what the manifest does to an
event.
-/

namespace EventGate

/-- What a program leaves behind: its exit code and what it printed. -/
structure Report where
  code : Nat
  output : String
  errors : String
deriving DecidableEq, Repr

namespace Report

def lines (texts : List String) : String :=
  texts.foldl (fun all text => all ++ text ++ "\n") ""

def failure (message : String) : Report :=
  ⟨2, "", lines ["error: " ++ message]⟩

def readManifest (file : Storage) : Except String Manifest :=
  match file.read with
  | .error cause => .error cause.message
  | .ok text => (Manifest.parse text).mapError Fault.message

def padded (width : Nat) (text : String) : String :=
  text ++ String.ofList (List.replicate (width - text.length) ' ')

def ruleLine (action : Action) : String :=
  "  - " ++ padded 26 action.effect.key ++
    (if action.condition.isSome then " (conditional)" else " (always)")

def ruleLines (path : String) (manifest : Manifest) : List String :=
  ["Manifest: " ++ path,
   "  - Version: " ++ manifest.version.getD "(none)",
   "  - Throttling: " ++ manifest.throttling.threshold.repr ++ " events per " ++
     manifest.throttling.windowSeconds.repr ++ "s",
   "",
   "Kept rules (" ++ manifest.actions.length.repr ++ "):"] ++
  manifest.actions.map ruleLine ++
  if manifest.dropped.isEmpty then []
  else
    ["", "Dropped rules (" ++ manifest.dropped.length.repr ++ "):"] ++
      manifest.dropped.map fun rule => "  - " ++ rule.text

/-- Lists the rules of a manifest; rules that were left out are a fault of it. -/
def ofValidation (path : String) (file : Storage) : Report :=
  match readManifest file with
  | .error message => failure message
  | .ok manifest =>
    ⟨if manifest.dropped.isEmpty then 0 else 1, lines (ruleLines path manifest), ""⟩

def routeJson (routed : Routed) : Json :=
  .ofMembers [
    ("channelId", .string routed.channel),
    ("argument", routed.argument.toJson)]

def outcomeJson {κ : Type} (outcome : Outcome κ) : Json :=
  .ofMembers [
    ("dropped", .bool outcome.dropped),
    ("throttled", .bool outcome.throttled),
    ("throttling", .string outcome.throttling.label),
    ("excludedChannels", .array (outcome.excludedChannels.map .string)),
    ("routes", .array (outcome.routes.map routeJson)),
    ("delivered", .array (outcome.delivered.map .string)),
    ("event", outcome.event.toJson)]

/-- A gate for trying out a manifest: a default channel, and channels that get what is routed to
them. -/
def trialGate (session : Session) (manifest : Manifest) (channels : List String) (now : Nat) :
    Gate HostState :=
  let gate := Gate.standard session manifest now
  let gate := (gate.register ⟨"default", .default⟩).2
  channels.foldl (fun gate id => (gate.register ⟨id, .plain⟩).2) gate

def ofTrial (file : Storage) (line : String) (session : Session) (channels : List String)
    (id : String) (now : Nat) : Report :=
  match readManifest file with
  | .error message => failure message
  | .ok manifest =>
    match (EventInput.parse line).bind fun input => input.toEvent id with
    | .error fault => failure fault.message
    | .ok event =>
      let gate := trialGate session manifest channels now
      let (outcome, _) := gate.post now { event with timestamp := now }
      ⟨0, lines [(outcomeJson outcome).indented 0], ""⟩

end Report

end EventGate
