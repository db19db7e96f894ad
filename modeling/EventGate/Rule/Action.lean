import EventGate.Rule.Condition
import EventGate.Rule.Route
import EventGate.Rule.Tree

/-! # Rules

A rule is an effect and the condition under which it applies. All parts of a rule are checked
together, and a rule with a fault in any part is of no use.
-/

namespace EventGate

inductive Effect where
  /-- Keeps the event away from channels; from all if the list is empty or names the wildcard. -/
  | excludeFrom (channels : List String)
  /-- Lets events of opted-out sessions pass. -/
  | allowEvents (names : List String)
  /-- Stops events of opted-out sessions. -/
  | denyEvents (names : List String)
  /-- Sends properties for opted-out sessions. -/
  | allowProperties (names : List String)
  /-- Holds properties back for opted-out sessions. -/
  | denyProperties (names : List String)
  | throttle (flag : Bool)
  | doNotThrottle (flag : Bool)
  /-- Marks properties as personal. -/
  | markPersonal (names : List String)
  | route (targets : List RouteTarget)
  | unknown (raw : Json)

namespace Effect

def everyChannel : String := "*"

def key : Effect → String
  | excludeFrom _ => "excludeForChannels"
  | allowEvents _ => "optOutIncludeEvents"
  | denyEvents _ => "optOutExcludeEvents"
  | allowProperties _ => "optOutIncludeProperties"
  | denyProperties _ => "optOutExcludeProperties"
  | throttle _ => "throttle"
  | doNotThrottle _ => "doNotThrottle"
  | markPersonal _ => "piiProperties"
  | route _ => "route"
  | unknown _ => "invalid"

/-- Whether the effect concerns opted-out sessions only. -/
def isOptOut : Effect → Bool
  | allowEvents _ => true
  | denyEvents _ => true
  | allowProperties _ => true
  | denyProperties _ => true
  | _ => false

def ofJson (raw : Json) : Effect :=
  (raw.firstMember? [
    ("excludeForChannels", fun v => v.strings?.map excludeFrom),
    ("route", fun v => v.items?.map fun items => route (items.map RouteTarget.ofJson)),
    ("optOutIncludeEvents", fun v => v.strings?.map allowEvents),
    ("optOutExcludeEvents", fun v => v.strings?.map denyEvents),
    ("optOutIncludeProperties", fun v => v.strings?.map allowProperties),
    ("optOutExcludeProperties", fun v => v.strings?.map denyProperties),
    ("throttle", fun v => v.bool?.map throttle),
    ("doNotThrottle", fun v => v.bool?.map doNotThrottle),
    ("piiProperties", fun v => v.strings?.map markPersonal)]).getD (unknown raw)

/-- There are names, and none is empty. -/
def checkNames (key : String) (names : List String) : Except RuleFault Unit :=
  if names.isEmpty then .error (.noNames key)
  else if names.any String.isEmpty then .error (.emptyName key)
  else .ok ()

def checkFlag (key : String) (flag : Bool) : Except RuleFault Unit :=
  if flag then .ok () else .error (.notTrue key)

def check (effect : Effect) : Except RuleFault Unit :=
  match effect with
  | excludeFrom channels =>
    if channels.any String.isEmpty then .error (.emptyChannel effect.key) else .ok ()
  | allowEvents names => checkNames effect.key names
  | denyEvents names => checkNames effect.key names
  | allowProperties names => checkNames effect.key names
  | denyProperties names => checkNames effect.key names
  | throttle flag => checkFlag effect.key flag
  | doNotThrottle flag => checkFlag effect.key flag
  | markPersonal names => checkNames effect.key names
  | route targets => if targets.isEmpty then .error (.noTargets effect.key) else .ok ()
  | unknown raw => .error (.unknownAction raw)

end Effect

structure Action where
  condition : Option Condition
  effect : Effect

/-- A part of a rule that is checked on its own. -/
inductive RulePart where
  | action (a : Action)
  | condition (c : Condition)
  | comparison (c : Comparison)
  | target (t : RouteTarget)
  | argument (a : RouteArgument)

namespace RulePart

def check : RulePart → Except RuleFault Unit
  | action a => a.effect.check
  | condition c => c.check
  | comparison c => c.check
  | target t => t.check
  | argument a => a.check

end RulePart

mutual

def Condition.tree : Condition → Tree RulePart
  | .all parts => .node (.condition (.all parts)) (Condition.trees parts)
  | .any parts => .node (.condition (.any parts)) (Condition.trees parts)
  | .not part => .node (.condition (.not part)) [part.tree]
  | .property name comparison =>
    .node (.condition (.property name comparison)) [.node (.comparison comparison) []]
  | .unknown raw => .node (.condition (.unknown raw)) []

def Condition.trees : List Condition → List (Tree RulePart)
  | [] => []
  | part :: rest => part.tree :: Condition.trees rest

end

def RouteTarget.tree (target : RouteTarget) : Tree RulePart :=
  .node (.target target) [.node (.argument target.argument) []]

namespace Action

/-- The rule that a value describes. Only an object has a condition, and a condition that is given
counts even if it is null. -/
def ofJson (raw : Json) : Action where
  condition := (raw.get? "when").map Condition.ofJson
  effect := .ofJson raw

/-- The parts of a rule: the condition before the targets of a route. -/
def tree (action : Action) : Tree RulePart :=
  let targets :=
    match action.effect with
    | .route targets => targets.map RouteTarget.tree
    | _ => []
  .node (.action action) ((action.condition.map Condition.tree).toList ++ targets)

def check (action : Action) : Except RuleFault Unit :=
  action.tree.check RulePart.check

def applies (action : Action) (event : Event) : Bool :=
  match action.condition with
  | some condition => condition.holds event
  | none => true

end Action

end EventGate
