import EventGate.Config
import EventGate.Pipeline.Processor
import EventGate.Refresh.Location
import EventGate.Refresh.Manager
import EventGate.Refresh.Source
import EventGate.Service.Sink

/-! # The service

What a host holds: a session with its channels, the manifest in force, and the processor of events.
After disposal every request is refused.
-/

namespace EventGate

/-- A service. `notes` tells what happened at the host's channels. -/
structure Service where
  processor : Processor HostState Sink
  manager : Manager
  source : Option Source
  plan : RunPlan
  log : Option LogChannel
  notes : List ChannelNote
  started : Bool
  disposed : Bool

def Config.source? (config : Config) : Option Source :=
  config.manifestUrl.map fun url =>
    .server (manifestAddress url config.hostName config.schema)

namespace Service

def logId : String := "file"

def registry (service : Service) : Registry Sink :=
  service.processor.registry

def session (service : Service) : Session :=
  service.processor.session

def manifest (service : Service) : Manifest :=
  service.manager.active

def releaseLog (service : Service) : Service :=
  if service.registry.channels.any fun c => c.sink.isLog then service
  else { service with log := service.log.map LogChannel.close }

def admitChannel (service : Service) (registration : Registration) (sink : Sink) :
    Bool × Service :=
  let (accepted, registry) := service.registry.register service.session registration sink
  (accepted, releaseLog { service with processor := { service.processor with registry } })

def create (config : Config) (session : Session) (source : Option Source) (cache : Option Storage)
    (place : Place) (now : Nat) : Except Fault Service := do
  let validators := Validator.standard config.disabled config.overrides
  let service : Service := {
    processor := .standard session (.create validators) now
    manager := .create cache
    source
    plan := config.refresh
    log := none
    notes := []
    started := false
    disposed := false }
  match config.log with
  | none => return service
  | some settings =>
    let log ← LogChannel.create logId .default settings place now
    return (admitChannel { service with log := some log } ⟨logId, .default⟩ .log).2

def ensureLive (service : Service) : Except Fault Unit :=
  if service.disposed then .error .disposed else .ok ()

/-- What a start answers when the service was started before. -/
def earlierStart? (service : Service) : Option Status :=
  if service.started then service.manager.lastStatus? else none

def beginStart (service : Service) : Service :=
  { service with started := true, manager := service.manager.beginLoad }

/-- The first start ends with a manifest in force. -/
def endStart (service : Service) : Status × Service :=
  let (status, manager) := service.manager.endLoad
  (status, { service with manager })

def wantsRefresh (service : Service) : Bool :=
  service.source.isSome && service.plan.enabled

/-- A start with nothing else under way; only the first one loads a manifest. -/
def start (service : Service) : Except Fault (Status × Service) := do
  service.ensureLive
  match service.earlierStart? with
  | some status => return (status, service)
  | none => return service.beginStart.endStart

def deliver (now : Nat) (event : Event) (service : Service) (delivery : Delivery Sink) : Service :=
  match delivery.sink with
  | .log =>
    { service with log := service.log.map fun log => log.post now event delivery.arguments }
  | .host channel => { service with notes := service.notes ++ [.got channel.id event.name] }

def post (service : Service) (now : Nat) (event : Event) :
    Except Fault (Outcome Sink × Service) := do
  service.ensureLive
  let (outcome, processor) := service.processor.process service.manifest now event
  return (outcome,
    outcome.deliveries.foldl (deliver now outcome.event) { service with processor })

def register (service : Service) (channel : HostChannel) (traits : ChannelTraits) :
    Except Fault (Bool × Service) := do
  service.ensureLive
  return service.admitChannel ⟨channel.id, traits⟩ (.host channel)

/-- The answer to a refresh that was asked for. -/
def refreshAnswer (outcome : RefreshOutcome) : Except Fault RefreshReport :=
  outcome.mapError fun fault => .fetch fault.message

def refresh (service : Service) (now : Nat) (fetched : Except Fault String) :
    Except Fault RefreshReport × Service :=
  if service.disposed then (.error .disposed, service)
  else
    match service.source with
    | none => (refreshAnswer (.error .noSource), service)
    | some source =>
      let (outcome, manager) := service.manager.refresh source.describe now fetched
      (refreshAnswer outcome, { service with manager })

end Service

end EventGate
