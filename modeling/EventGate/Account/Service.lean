import EventGate.Account.Pipeline
import EventGate.Service.Live

/-! # Accounts of a service

Its settings, its log, the state of its manifest, and its notifications.
-/

namespace EventGate

def Rotation.account : Rotation → String
  | bySize bytes => "BySize(" ++ bytes.repr ++ ")"
  | byAge seconds => "ByTime(" ++ seconds.repr ++ ")"
  | daily => "Daily"
  | hourly => "Hourly"
  | never => "Never"

def LogSettings.account (settings : LogSettings) : Json :=
  .ofMembers [
    ("dir", .string settings.directory),
    ("rotation", .string settings.rotation.account),
    ("compress", .bool settings.compress),
    ("max", .ofNat settings.keep),
    ("buffer", .ofNat settings.buffer),
    ("immediate", .bool settings.immediate)]

def Overrides.account (overrides : Overrides) : Json :=
  .ofMembers (overrides.map fun o => (o.1, .bool o.2))

def Config.account (config : Config) : Json :=
  .ofMembers [
    ("url", .ofOption .string config.manifestUrl),
    ("host", .string config.hostName),
    ("schema", .ofNat config.schema),
    ("cache", .ofOption .string config.cachePath),
    ("disabled", .bool config.disabled),
    ("overrides", config.overrides.account),
    ("refresh_secs", .ofNat (config.refresh.interval / 1000)),
    ("jitter_secs", .ofNat (config.refresh.jitter / 1000)),
    ("enabled", .bool config.refresh.enabled),
    ("file", .ofOption LogSettings.account config.log)]

def LogCounts.account (counts : LogCounts) : Json :=
  .ofMembers [
    ("lines", .ofNat counts.lines),
    ("bytes", .ofNat counts.bytes),
    ("rotations", .ofNat counts.rotations),
    ("errors", .ofNat counts.errors)]

def ManagerState.label : ManagerState → String
  | uninitialized => "Uninitialized"
  | loading => "Loading"
  | active => "Active"
  | refreshing => "Refreshing"
  | failed => "Failed"

def StatusKind.label : StatusKind → String
  | loaded => "Loaded"
  | refreshed => "Refreshed"
  | failed => "Failed"

def Status.account (status : Status) : Json :=
  .ofMembers [
    ("kind", .string status.kind.label),
    ("source", .string status.origin.text),
    ("success", .bool status.isSuccess),
    ("version", .ofOption .string status.version),
    ("dropped", .array (status.dropped.map DroppedRule.account)),
    ("error", .ofOption (fun fault => .string fault.message) status.fault)]

def RefreshReport.account (report : RefreshReport) : Json :=
  .ofMembers [
    ("loaded", .ofNat report.loaded),
    ("dropped", .ofNat report.dropped),
    ("stamped", .bool true)]

def RefreshOutcome.account : RefreshOutcome → Json
  | .ok report => report.account
  | .error fault => .object [("failed", .string fault.message)]

/-- For each question to a script, whether it asked for a fresh copy. -/
def Source.asked : Source → Json
  | script _ _ asked => .array (asked.map .bool)
  | _ => .null

def Storage.account : Storage → Json
  | text content => .string content
  | _ => .null

def Service.manifestAccount (service : Service) : Json :=
  let manager := service.manager
  .ofMembers [
    ("state", .string manager.state.label),
    ("version", .ofOption .string manager.active.version),
    ("rules", .ofNat manager.active.actions.length),
    ("fetches", .ofOption Source.asked service.source),
    ("refreshed_once", .bool manager.lastRefresh.isSome),
    ("cache", .ofOption Storage.account manager.cache)]

def ChannelNote.text : ChannelNote → String
  | got id event => id ++ " got " ++ event
  | flushing id => id ++ " flushing"
  | flushed id => id ++ " flushed"

end EventGate
