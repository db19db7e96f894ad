import EventGate.Refresh.Flight
import EventGate.Schedule.Drain
import EventGate.Service.Basic

/-! # The service on a clock

The errands of a service in the background: refreshes that share a fetch, and its disposal within a
budget of time. Whoever waits gives the errands their turns.
-/

namespace EventGate

/-- What a service does in the background. A refresh is asked for and waited for; a fetch is asked
for, answered, and its text stored; a disposal ends the scheduler's work and then flushes the
channels one by one, until a deadline. `first` is the first fault of a flush. -/
inductive Errand where
  | ask (bypass : Bool)
  | aboard
  | fetch (flight : Nat) (bypass : Bool)
  | answered (flight : Nat)
  | store (flight : Nat) (fetched : Except Fault String)
  | leave (budget : Nat)
  | drain (todo : Drain) (deadline : Nat)
  | flushing (sink : Sink) (ends : Nat) (rest : List Sink) (deadline : Nat) (first : Option Fault)

/-- A service with its flights, and how its disposals ended, by their jobs. -/
structure Desk where
  service : Service
  flights : Flights RefreshOutcome
  endings : List (Nat × Except Fault Unit)

abbrev Live := Clockwork Errand Desk

namespace Live

abbrev Rest := Option (Due × Errand)

def create (service : Service) : Live :=
  Clockwork.create ⟨service, .create, []⟩

def service (live : Live) : Service :=
  live.state.service

def setService (live : Live) (service : Service) : Live :=
  { live with state := { live.state with service } }

def setFlights (live : Live) (flights : Flights RefreshOutcome) : Live :=
  { live with state := { live.state with flights } }

def setManager (live : Live) (manager : Manager) : Live :=
  live.setService { live.service with manager }

/-- Somebody else changes the file that is the source. -/
def setSourceFile (live : Live) (storage : Storage) : Live :=
  match live.service.source with
  | some (.file path _) =>
    live.setService { live.service with source := some (.file path storage) }
  | _ => live

/-! ## Refreshes -/

/-- A caller joins the refresh under way, or starts one. -/
def call (live : Live) (caller : Nat) (bypass : Bool) : Live :=
  let (started, flights) := live.state.flights.call caller
  let live := live.setFlights flights
  match started with
  | some flight => (live.spawn none (.fetch flight bypass)).2
  | none => live

/-- A refresh ends: all who wait for it get its outcome, and their turns. -/
def conclude (live : Live) (flight : Nat) (outcome : RefreshOutcome) : Live :=
  let flights := (live.state.flights.land flight outcome).handOut flight
  let live := live.setFlights flights
  { live with agenda := live.agenda.wakeAll fun e =>
      e.due == .call && (flights.outcome? e.job).isSome }

/-- What was fetched becomes the manifest in force, unless it is no good. -/
def finish (live : Live) (flight : Nat) (location : String) (fetched : Except Fault String) :
    Live :=
  let (outcome, manager) := live.service.manager.endRefresh location live.now fetched
  (live.setManager manager).conclude flight outcome

/-- The answer of the source arrives. A good text is stored before it counts. -/
def receive (live : Live) (flight : Nat) (source : Source) : Live × Rest :=
  let (answer, source) := source.answer
  let live := live.setService { live.service with source := some source }
  let stores := live.service.manager.cache.isSome && (Manager.parsed answer).isOk
  if stores then (live, some (.disk, .store flight answer))
  else (live.finish flight source.describe answer, none)

def fetch (live : Live) (flight : Nat) (bypass : Bool) : Live × Rest :=
  match live.service.source with
  | none => (live.conclude flight (.error .noSource), none)
  | some source =>
    let source := source.ask bypass
    let live := live.setService
      { live.service with source := some source, manager := live.service.manager.beginRefresh }
    match source with
    | .script 0 _ _ => live.receive flight source
    | .script delay _ _ => (live, some (.at (live.now + delay), .answered flight))
    | _ => (live, some (.disk, .answered flight))

/-! ## Disposal -/

def note (live : Live) (note : ChannelNote) : Live :=
  live.setService { live.service with notes := live.service.notes ++ [note] }

def ended (live : Live) (job : Nat) (result : Except Fault Unit) : Live × Rest :=
  ({ live with state := { live.state with endings := live.state.endings ++ [(job, result)] } },
    none)

def giveUp (live : Live) (job : Nat) : Live × Rest :=
  let live : Live := Clockwork.dispose live
  live.ended job (.error .timedOut)

def flushed (live : Live) (sink : Sink) : Live × Option Fault :=
  match sink with
  | .host channel =>
    match channel.flushFault with
    | some fault => (live, some fault)
    | none => (live.note (.flushed channel.id), none)
  | .log =>
    match live.service.log with
    | none => (live, none)
    | some log =>
      match log.flush with
      | .ok log => (live.setService { live.service with log := some log }, none)
      | .error fault => (live, some fault)

/-- Flushes one channel after another, as far as that goes without waiting. -/
def flushAll (live : Live) (job deadline : Nat) (first : Option Fault) : List Sink → Live × Rest
  | [] =>
    live.ended job (match first with
      | some fault => .error fault
      | none => .ok ())
  | .log :: rest =>
    if deadline ≤ live.now then live.giveUp job
    else (live, some (.disk, .flushing .log live.now rest deadline first))
  | .host channel :: rest =>
    let live := live.note (.flushing channel.id)
    if channel.flushTime = 0 then
      let (live, fault) := live.flushed (.host channel)
      flushAll live job deadline (first.or fault) rest
    else if deadline ≤ live.now then live.giveUp job
    else
      let ends := live.now + channel.flushTime
      (live, some (.at (min ends deadline), .flushing (.host channel) ends rest deadline first))

/-- Goes on with the shutdown of the scheduler, and then with the channels. -/
def goOn (live : Live) (job : Nat) (todo : Drain) (deadline : Nat) : Live × Rest :=
  let (todo, live) : Drain × Live := Clockwork.proceed todo live
  match Clockwork.awaited? todo with
  | some other =>
    if deadline ≤ live.now then giveUp live job
    else (live, some (.after other (some deadline), .drain todo deadline))
  | none =>
    flushAll live job deadline none (live.state.service.registry.channels.map Channel.sink)

/-- A disposal begins; a second one has nothing to do. -/
def leave (live : Live) (job budget : Nat) : Live × Rest :=
  if live.service.disposed then live.ended job (.ok ())
  else
    let live := live.setService { live.service with disposed := true }
    let (todo, live) : Drain × Live := Clockwork.beginShutdown live
    goOn live job todo (live.now + budget)

def act (job : Nat) (errand : Errand) (live : Live) : Live × Rest :=
  match errand with
  | .ask bypass => (live.call job bypass, some (.call, .aboard))
  | .aboard => (live, none)
  | .fetch flight bypass => live.fetch flight bypass
  | .answered flight =>
    match live.service.source with
    | some source => live.receive flight source
    | none => (live.conclude flight (.error .noSource), none)
  | .store flight fetched =>
    (live.finish flight ((live.service.source.map Source.describe).getD "") fetched, none)
  | .leave budget => live.leave job budget
  | .drain todo deadline => live.goOn job todo deadline
  | .flushing sink ends rest deadline first =>
    if ends ≤ live.now then
      let (live, fault) := live.flushed sink
      live.flushAll job deadline (first.or fault) rest
    else
      live.giveUp job

/-! ## Requests -/

def advance (live : Live) (time : Nat) : Live :=
  Clockwork.advance act live time

/-- Loads a manifest. If there is a local copy to read, others get their turns meanwhile. -/
def settleForCache (live : Live) : Live :=
  if live.service.manager.cache.isSome then Clockwork.settle act live else live

def load (live : Live) : Status × Live :=
  let live := (live.setManager live.service.manager.beginLoad).settleForCache
  let (status, manager) := live.service.manager.endLoad
  (status, live.setManager manager)

/-- Starts the service; the first start loads a manifest and begins to refresh it. -/
def start (live : Live) : Except Fault Status × Live :=
  match live.service.ensureLive with
  | .error fault => (.error fault, live)
  | .ok () =>
    match live.service.earlierStart? with
    | some status => (.ok status, live)
    | none =>
      let live := (live.setService live.service.beginStart).settleForCache
      let (status, service) := live.service.endStart
      let live := live.setService service
      if service.wantsRefresh then (.ok status, (live.scheduleTimed 0 service.plan (.ask false)).2)
      else (.ok status, live)

def refresh (live : Live) (bypass : Bool) : Option RefreshOutcome × Live :=
  let (caller, agenda) := live.agenda.reserve
  let isReady (live : Live) : Bool := (live.state.flights.outcome? caller).isSome
  let live : Live := Clockwork.await act isReady (call { live with agenda } caller bypass)
  (live.state.flights.outcome? caller, live)

/-- A refresh in the background that does not belong to the scheduler. -/
def beginRefresh (live : Live) (bypass : Bool) : Nat × Live :=
  live.spawn none (.ask bypass)

def awaitRefreshes (live : Live) (jobs : List Nat) : List (Option RefreshOutcome) × Live :=
  let live : Live := Clockwork.await act (fun live => jobs.all live.agenda.isOver) live
  (jobs.map live.state.flights.outcome?, live)

def forceRefresh (live : Live) : Except Fault (Option RefreshOutcome) × Live :=
  match live.service.ensureLive with
  | .error fault => (.error fault, live)
  | .ok () =>
    let (outcome, live) := live.refresh true
    (.ok outcome, live)

def requestRefresh (live : Live) : Except Fault Unit × Live :=
  match live.service.ensureLive with
  | .error fault => (.error fault, live)
  | .ok () => (.ok (), live.schedule (.ask true))

/-- Drops all work at once. What waits in channels is not flushed. -/
def disposeNow (live : Live) : Live :=
  if live.service.disposed then live
  else Clockwork.dispose (live.setService { live.service with disposed := true })

def ending? (live : Live) (job : Nat) : Option (Except Fault Unit) :=
  live.state.endings.lookup job

/-- Ends all work within a budget, and waits for that. -/
def disposeWithin (live : Live) (budget : Nat) : Option (Except Fault Unit) × Live :=
  let (job, live) := Clockwork.runNow act live (.leave budget)
  let live : Live := Clockwork.await act (fun live => (ending? live job).isSome) live
  (ending? live job, live)

def beginDispose (live : Live) (budget : Nat) : Nat × Live :=
  live.spawn none (.leave budget)

def awaitDisposals (live : Live) (jobs : List Nat) :
    List (Option (Except Fault Unit)) × Live :=
  let live : Live := Clockwork.await act (fun live => jobs.all live.agenda.isOver) live
  (jobs.map (ending? live), live)

end Live

end EventGate
