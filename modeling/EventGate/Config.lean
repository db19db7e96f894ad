import EventGate.Channel.Validator
import EventGate.Decimal.Reader
import EventGate.Log.Rotation
import EventGate.Schedule.Plan
import EventGate.Text.Blank
import EventGate.Text.Split

/-! # Settings from variables

The settings of a service, as environment variables give them. A variable whose text has no meaning
leaves its setting as it is.
-/

namespace EventGate

open Text

structure Config where
  manifestUrl : Option String
  hostName : String
  schema : Nat
  cachePath : Option String
  disabled : Bool
  overrides : Overrides
  refresh : RunPlan
  log : Option LogSettings

namespace Config

def standard : Config where
  manifestUrl := none
  hostName := "default"
  schema := 2
  cachePath := none
  disabled := false
  overrides := []
  refresh := .standard
  log := none

/-- A natural number below a limit; blanks at the ends and a plus sign do not matter. -/
def readNat? (limit : Nat) (text : String) : Option Nat :=
  let number := match stripEnds isBlank text.toList with
    | '+' :: rest => readDigits? rest
    | chars => readDigits? chars
  number.filter (· < limit)

def isOn (text : String) : Bool :=
  let word := String.ofList ((stripEnds isBlank text.toList).map Char.toLower)
  ["1", "true", "yes", "on"].contains word

def notBlank? (text : String) : Option String :=
  if (stripEnds isBlank text.toList).isEmpty then none else some text

end Config

namespace Overrides

def switchOf? (text : List Char) : Option Bool :=
  if text = ['1'] ∨ text = "true".toList then some true
  else if text = ['0'] ∨ text = "false".toList then some false
  else none

/-- One entry: an id, and behind the first equals sign its switch. Blanks around both are
dropped. -/
def entry? (chars : List Char) : Option (String × Bool) := do
  let (id, switch) ← splitOnce? '=' chars
  let id := stripEnds isBlank id
  if id.isEmpty then none
  else return (String.ofList id, ← switchOf? (stripEnds isBlank switch))

def set (overrides : Overrides) (entry : String × Bool) : Overrides :=
  (overrides.filter fun o => o.1 != entry.1) ++ [entry]

/-- Entries one after another; of equal ids the last one counts. -/
def ofEntries (entries : List (String × Bool)) : Overrides :=
  entries.foldl set []

/-- The switches that a text lists between commas. An entry without a meaning is left out. -/
def parse (text : String) : Overrides :=
  ofEntries ((splitChars ',' text.toList).filterMap entry?)

def get? (overrides : Overrides) (id : String) : Option Bool :=
  overrides.lookup id

end Overrides

namespace Config

/-- The refresh plan with an interval in seconds; none at all if that is zero. -/
def planOf (text : Option String) : RunPlan :=
  match text.bind (readNat? UInt64.size) with
  | none => .standard
  | some 0 => { RunPlan.standard with enabled := false }
  | some seconds => { RunPlan.standard with interval := seconds * 1000 }

def variableNames : List String := [
  "TELEMETRY_MANIFEST_URL", "TELEMETRY_HOST_NAME", "TELEMETRY_MANIFEST_SCHEMA",
  "TELEMETRY_CACHE_PATH", "TELEMETRY_DISABLED", "TELEMETRY_CHANNEL_OVERRIDES",
  "TELEMETRY_REFRESH_SECS", "TELEMETRY_LOG_DIR"]

def ofVariables (valueOf? : String → Option String) : Config where
  manifestUrl := (valueOf? "TELEMETRY_MANIFEST_URL").bind notBlank?
  hostName := ((valueOf? "TELEMETRY_HOST_NAME").bind notBlank?).getD standard.hostName
  schema :=
    ((valueOf? "TELEMETRY_MANIFEST_SCHEMA").bind (readNat? UInt32.size)).getD standard.schema
  cachePath := valueOf? "TELEMETRY_CACHE_PATH"
  disabled := ((valueOf? "TELEMETRY_DISABLED").map isOn).getD false
  overrides := ((valueOf? "TELEMETRY_CHANNEL_OVERRIDES").map Overrides.parse).getD []
  refresh := planOf (valueOf? "TELEMETRY_REFRESH_SECS")
  log := (valueOf? "TELEMETRY_LOG_DIR").map LogSettings.standard

/-- Without variables everything is as it is by default. -/
theorem ofVariables_none : ofVariables (fun _ => none) = standard := rfl

end Config

end EventGate
