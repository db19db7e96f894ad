import EventGate.Personal.Hashing
import EventGate.Pipeline.RateWindow
import EventGate.Pipeline.SettingTable
import EventGate.Pipeline.Stage

/-! # Stages of the host

The stages that every event passes, whatever the manifest says. Two of them remember something from
event to event: the settings already posted, and the count of the rate limit.
-/

namespace EventGate

/-- What the stages of a host remember. -/
structure HostState where
  settings : SettingTable
  window : RateWindow
deriving DecidableEq, Repr

def HostState.create (capacity now : Nat) : HostState :=
  ⟨.create capacity, .create now⟩

namespace HostStage

/-- The properties that an opted-out session may not send for a friendly event. -/
def unfriendly (event : Event) : List String :=
  event.properties.names.filter fun name =>
    !event.friendlyNames.contains name && !Naming.isReserved name

/-- For opted-out sessions: a friendly event may pass without its other properties, and any other
event is denied for now. -/
def customOptOut {σ : Type} : Stage σ :=
  .stateless .customOptOut "custom-opt-out" fun around event context =>
    if context.dropped then (false, event, context)
    else if !around.session.optedOut then (true, event, context)
    else if !event.friendly then (true, event, { context with optOut := .denied })
    else (true, event.excludeAll (unfriendly event), { context with optOut := .allowed })

def metricNameProperty : String := "Reserved.Metric.Name"

def metricValueProperty : String := "Reserved.Metric.Value"

/-- Stamps a metric event with its measurement; one without a finite value is dropped. -/
def metric {σ : Type} : Stage σ :=
  .stateless .metric "metric" fun _ event context =>
    if context.dropped then (false, event, context)
    else if event.kind ≠ .metric then (true, event, context)
    else
      match event.metric with
      | none => (false, event, context.drop)
      | some metric =>
        if metric.value.isFinite then
          let named := event.put metricNameProperty (.text metric.name)
          (true, named.put metricValueProperty (.number metric.value), context)
        else
          (false, event, context.drop)

def fingerprintPart (entry : Entry) : String :=
  "|" ++ Text.fold entry.1 ++ "=" ++ entry.2.matchText

/-- What makes a setting event the same as another one: its name, and the properties that are sent
and are not the framework's. -/
def fingerprint (event : Event) : String :=
  let entries := event.sent.filter fun e => !Naming.isReserved e.1
  Text.fold event.name ++ String.join (entries.map fingerprintPart)

/-- Drops a setting event that repeats one of those remembered. -/
def setting : Stage HostState where
  priority := .setting
  name := "setting"
  run _ pass :=
    if pass.context.dropped then (false, pass)
    else if pass.event.kind ≠ .setting then (true, pass)
    else
      let (isNew, settings) := pass.state.settings.observe (fingerprint pass.event)
      let state := { pass.state with settings }
      if isNew then (true, { pass with state })
      else (false, { pass with state, context := pass.context.drop })

def personal {σ : Type} : Stage σ :=
  .stateless .personal "pii" fun around event context =>
    if context.dropped then (false, event, context)
    else (true, (Personal.hashAll around.session event).1, context)

/-- Whether a property that is sent must not reach a restricted channel. -/
def isSensitive (entry : Entry) : Bool :=
  Naming.isRaw entry.1 || entry.2.isStructured

/-- Keeps an event with raw or structured data away from the restricted channels. -/
def restriction {σ : Type} : Stage σ :=
  .stateless .restriction "ai-restriction" fun around event context =>
    if context.dropped then (false, event, context)
    else if event.sent.any isSensitive then
      (true, event, context.excludeChannels around.restricted)
    else
      (true, event, context)

def rendered : PropertyValue → PropertyValue
  | .structured json => .text json.write
  | value => value

def structured {σ : Type} : Stage σ :=
  .stateless .structured "complex-property" fun _ event context =>
    if context.dropped then (false, event, context)
    else (true, { event with properties := event.properties.mapValues rendered }, context)

def emptyNames (event : Event) : List String :=
  (event.sent.filter fun e => e.2.isEmptyText && !Naming.isReserved e.1).map Prod.fst

def suppressEmpty {σ : Type} : Stage σ :=
  .stateless .suppressEmpty "suppress-empty-property" fun _ event context =>
    if context.dropped then (false, event, context)
    else (true, event.excludeAll (emptyNames event), context)

/-- Applies the rate limit of the manifest; events that the rules exempt are not counted. -/
def throttling : Stage HostState where
  priority := .generalThrottling
  name := "general-throttling"
  run around pass :=
    if pass.context.dropped then (false, pass)
    else if pass.context.throttling = .doNotThrottle then (true, pass)
    else
      let limit := pass.context.manifest.throttling
      let (within, window) :=
        pass.state.window.enter around.now (1000 * limit.windowSeconds) limit.threshold
      let state := { pass.state with window }
      if within then (true, { pass with state })
      else (false, { pass with state, context := pass.context.throttle })

/-- The stages of every host, in their order. -/
def standard : List (Stage HostState) :=
  [customOptOut, metric, setting, personal, restriction, structured, suppressEmpty, throttling]

end HostStage

end EventGate
