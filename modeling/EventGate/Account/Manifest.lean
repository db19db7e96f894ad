import EventGate.Account.Event
import EventGate.Pipeline.ManifestStage

/-! # Accounts of manifests

The rules of a manifest as they were understood, the rules that were left out, and the stages that
the rules make.
-/

namespace EventGate

def Comparison.account : Comparison → Json
  | equals s => .object [("eq", .string s)]
  | below x => .object [("lt", x.account)]
  | above x => .object [("gt", x.account)]
  | present b => .object [("exists", .bool b)]
  | startsWith s => .object [("startsWith", .string s)]
  | endsWith s => .object [("endsWith", .string s)]
  | contains s => .object [("contains", .string s)]
  | unknown raw => .object [("invalid", .string raw.write)]

mutual

def Condition.account : Condition → Json
  | .all parts => .object [("and", .array (Condition.accounts parts))]
  | .any parts => .object [("or", .array (Condition.accounts parts))]
  | .not part => .object [("not", part.account)]
  | .property name comparison =>
    .object [("property", .string name), ("value", comparison.account)]
  | .unknown raw => .object [("invalid", .string raw.write)]

def Condition.accounts : List Condition → List Json
  | [] => []
  | part :: rest => part.account :: Condition.accounts rest

end

def RouteArgument.label : RouteArgument → String
  | datapoint _ => "Datapoint"
  | stream _ => "Stream"
  | property _ => "Property"
  | unknown _ => "Invalid"

def RouteArgument.account (argument : RouteArgument) : Json :=
  .array [.string argument.label, .string argument.toJson.write]

def RouteTarget.account (target : RouteTarget) : Json :=
  .array [.string target.channel, target.argument.account]

def Effect.payload : Effect → Json
  | excludeFrom names => .ofTexts names
  | allowEvents names => .ofTexts names
  | denyEvents names => .ofTexts names
  | allowProperties names => .ofTexts names
  | denyProperties names => .ofTexts names
  | throttle flag => .bool flag
  | doNotThrottle flag => .bool flag
  | markPersonal names => .ofTexts names
  | route targets => .array (targets.map RouteTarget.account)
  | unknown raw => .string raw.write

def Action.account (action : Action) : Json :=
  .ofMembers [
    ("kind", .string action.effect.key),
    ("opt_out", .bool action.effect.isOptOut),
    ("when", .ofOption Condition.account action.condition),
    ("payload", action.effect.payload)]

def DroppedRule.account (rule : DroppedRule) : Json :=
  .array [.ofNat rule.index, .string rule.key, .string rule.reason, .string rule.text]

def Stage.account {σ : Type} (stage : Stage σ) : Json :=
  .array [.string stage.priority.text, .string stage.name]

def Manifest.account (manifest : Manifest) : Json :=
  .ofMembers [
    ("version", .ofOption .string manifest.version),
    ("etag", .ofOption .string manifest.etag),
    ("throttling", .array [
      .ofNat manifest.throttling.threshold, .ofNat manifest.throttling.windowSeconds]),
    ("actions", .array (manifest.actions.map Action.account)),
    ("dropped", .array (manifest.dropped.map DroppedRule.account)),
    ("stages", .array ((manifest.stages : List (Stage Unit)).map Stage.account)),
    ("debug", .string manifest.summary)]

end EventGate
