import EventGate.Pipeline.Stage

/-! # Stages of a manifest

The rules of a manifest, gathered by kind into one stage each, in document order. The opt-out stage
is always there, because it has the last word on events of opted-out sessions.
-/

namespace EventGate

/-- A rule of one kind: what it does, and under which condition. -/
structure Guarded (α : Type) where
  condition : Option Condition
  payload : α

def Guarded.applies {α : Type} (rule : Guarded α) (event : Event) : Bool :=
  match rule.condition with
  | some condition => condition.holds event
  | none => true

def Guarded.select {α : Type} (pick : Effect → Option α) (actions : List Action) :
    List (Guarded α) :=
  actions.filterMap fun action =>
    (pick action.effect).map fun payload => ⟨action.condition, payload⟩

structure OptOutRules where
  allowedEvents : List (Guarded NameSet)
  deniedEvents : List (Guarded NameSet)
  allowedProperties : List (Guarded (List String))
  deniedProperties : List (Guarded (List String))

namespace ManifestStage

variable {σ : Type}

def isEverywhere (channels : List String) : Bool :=
  channels.isEmpty || channels.contains Effect.everyChannel

/-- Excludes channels by rules; none if a rule excludes all of them. -/
def excludeBy (event : Event) : List (Guarded (List String)) → Context → Bool × Context
  | [], context => (true, context)
  | rule :: rest, context =>
    if rule.applies event then
      if isEverywhere rule.payload then (false, context.drop)
      else excludeBy event rest (context.excludeChannels rule.payload)
    else
      excludeBy event rest context

def exclude (rules : List (Guarded (List String))) : Stage σ :=
  .stateless .manifestExclude "manifest-exclude" fun _ event context =>
    if context.dropped then (false, event, context)
    else
      let (goesOn, context) := excludeBy event rules context
      (goesOn, event, context)

def names (event : Event) (rule : Guarded NameSet) : Bool :=
  rule.payload.contains event.name && rule.applies event

/-- The verdict after the rules, of which those that deny come last. -/
def verdict (rules : OptOutRules) (event : Event) (given : OptOutVerdict) : OptOutVerdict :=
  if rules.deniedEvents.any (names event) then .denied
  else if rules.allowedEvents.any (names event) then .allowed
  else given

/-- Lets rules that apply to the event as it stands change its properties, one rule after
another. -/
def changeBy (change : Event → List String → Event) (event : Event)
    (rules : List (Guarded (List String))) : Event :=
  rules.foldl (fun event rule => if rule.applies event then change event rule.payload else event)
    event

def optOut (rules : OptOutRules) : Stage σ :=
  .stateless .manifestOptOut "manifest-opt-out" fun around event context =>
    if context.dropped then (false, event, context)
    else if !around.session.optedOut then (true, event, context)
    else
      let context := { context with optOut := verdict rules event context.optOut }
      if context.optOut ≠ .allowed then (false, event, context.drop)
      else
        let allowed := changeBy Event.readmitAll event rules.allowedProperties
        (true, changeBy Event.excludeAll allowed rules.deniedProperties, context)

def decision (rules : List (Guarded ThrottlingDecision)) (event : Event)
    (given : ThrottlingDecision) : ThrottlingDecision :=
  rules.foldl (fun given rule => if rule.applies event then rule.payload else given) given

def throttling (rules : List (Guarded ThrottlingDecision)) : Stage σ :=
  .stateless .manifestThrottling "manifest-throttling" fun _ event context =>
    if context.dropped then (false, event, context)
    else (true, event, { context with throttling := decision rules event context.throttling })

/-- Marks a value as personal, once. -/
def marked : PropertyValue → PropertyValue
  | .personal inner => .personal inner
  | value => .personal value

/-- The names that the rules mark. All rules see the event as it was before. -/
def namesBy (rules : List (Guarded (List String))) (event : Event) : List String :=
  (rules.filter fun rule => rule.applies event).flatMap Guarded.payload

def markPersonal (rules : List (Guarded (List String))) : Stage σ :=
  .stateless .manifestPersonal "manifest-pii" fun _ event context =>
    if context.dropped then (false, event, context)
    else
      let bag := (namesBy rules event).foldl (fun bag name => bag.modify name marked)
        event.properties
      (true, { event with properties := bag }, context)

def routesBy (rules : List (Guarded (List RouteTarget))) (event : Event) : List Routed :=
  (rules.filter fun rule => rule.applies event).flatMap fun rule =>
    rule.payload.map fun target => ⟨target.channel, target.argument⟩

def route (rules : List (Guarded (List RouteTarget))) : Stage σ :=
  .stateless .manifestRoute "manifest-route" fun _ event context =>
    if context.dropped then (false, event, context)
    else (true, event, { context with routes := context.routes ++ routesBy rules event })

end ManifestStage

namespace Effect

def excludedChannels? : Effect → Option (List String)
  | excludeFrom channels => some channels
  | _ => none

def allowedEvents? : Effect → Option NameSet
  | allowEvents names => some (.ofList names)
  | _ => none

def deniedEvents? : Effect → Option NameSet
  | denyEvents names => some (.ofList names)
  | _ => none

def allowedProperties? : Effect → Option (List String)
  | allowProperties names => some names
  | _ => none

def deniedProperties? : Effect → Option (List String)
  | denyProperties names => some names
  | _ => none

def throttlingDecision? : Effect → Option ThrottlingDecision
  | throttle _ => some .throttle
  | doNotThrottle _ => some .doNotThrottle
  | _ => none

def personalNames? : Effect → Option (List String)
  | markPersonal names => some names
  | _ => none

def routeTargets? : Effect → Option (List RouteTarget)
  | route targets => some targets
  | _ => none

end Effect

namespace Manifest

variable {σ : Type}

def optOutRules (actions : List Action) : OptOutRules where
  allowedEvents := Guarded.select Effect.allowedEvents? actions
  deniedEvents := Guarded.select Effect.deniedEvents? actions
  allowedProperties := Guarded.select Effect.allowedProperties? actions
  deniedProperties := Guarded.select Effect.deniedProperties? actions

/-- A stage for the rules of a kind, if there are any. -/
def stageFor {α : Type} (pick : Effect → Option α) (stage : List (Guarded α) → Stage σ)
    (actions : List Action) : List (Stage σ) :=
  let rules := Guarded.select pick actions
  if rules.isEmpty then [] else [stage rules]

/-- The stages of actions, kind after kind. The one for opted-out sessions is always there. -/
def gathered (actions : List Action) : List (Stage σ) :=
  [ManifestStage.optOut (optOutRules actions)] ++
    stageFor Effect.excludedChannels? ManifestStage.exclude actions ++
    stageFor Effect.throttlingDecision? ManifestStage.throttling actions ++
    stageFor Effect.personalNames? ManifestStage.markPersonal actions ++
    stageFor Effect.routeTargets? ManifestStage.route actions

def compile (actions : List Action) : List (Stage σ) :=
  Stage.sort (gathered actions)

def stages (manifest : Manifest) : List (Stage σ) :=
  compile manifest.actions

end Manifest

end EventGate
