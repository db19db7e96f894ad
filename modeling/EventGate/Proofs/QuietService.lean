import EventGate.Proofs.LastGoodManifest
import EventGate.Proofs.Requests
import Mathlib.Order.Lattice

/-! # A service with nothing in the background

Where nothing is refreshed in the background, a host's requests come one after another: each finds
nothing under way and leaves nothing under way. A refresh then asks its source once, and does with
the answer what the manager does with it.
-/

namespace EventGate

namespace Clockwork

variable {β σ : Type} (body : Body β σ) (isReady : Clockwork β σ → Bool)
  (now started job fuel : Nat) (work : Work β) (scheduler : Scheduler β) (state : σ)

/-! ## A job alone on the agenda -/

theorem runUntil_turn :
    runUntil body isReady (fuel + 1)
        ⟨⟨now, started, [⟨job, .turn, false, work⟩]⟩, scheduler, state⟩ =
      runUntil body isReady fuel
        (turn body ⟨⟨now, started, []⟩, scheduler, state⟩ ⟨job, .turn, false, work⟩) := by
  simp [runUntil, Agenda.take?]

theorem runUntil_disk
    (h : isReady ⟨⟨now, started, [⟨job, .disk, false, work⟩]⟩, scheduler, state⟩ = false) :
    runUntil body isReady (fuel + 2)
        ⟨⟨now, started, [⟨job, .disk, false, work⟩]⟩, scheduler, state⟩ =
      runUntil body isReady fuel
        (turn body ⟨⟨now, started, []⟩, scheduler, state⟩ ⟨job, .turn, false, work⟩) := by
  simp [runUntil, Agenda.take?, Agenda.waitsForDisk, Agenda.answerDisk, Agenda.wakeAll, h]

theorem runUntil_at {time : Nat}
    (h : isReady ⟨⟨now, started, [⟨job, .at time, false, work⟩]⟩, scheduler, state⟩ = false) :
    runUntil body isReady (fuel + 2)
        ⟨⟨now, started, [⟨job, .at time, false, work⟩]⟩, scheduler, state⟩ =
      runUntil body isReady fuel
        (turn body ⟨⟨max now time, started, []⟩, scheduler, state⟩ ⟨job, .turn, false, work⟩) := by
  simp [runUntil, Agenda.take?, Agenda.waitsForDisk, Agenda.nextTime?, Agenda.moveTo,
    Agenda.wakeAll, Due.time?, Due.isOverAt, h]

theorem runUntil_ready (h : isReady ⟨⟨now, started, []⟩, scheduler, state⟩ = true) :
    runUntil body isReady (fuel + 1) ⟨⟨now, started, []⟩, scheduler, state⟩ =
      ⟨⟨now, started, []⟩, scheduler, state⟩ := by
  simp [runUntil, Agenda.take?, h]

theorem await_of_not_ready {c : Clockwork β σ} (h : isReady c = false) :
    await body isReady c = runUntil body isReady patience c := by
  simp [await, h]

variable {c : Clockwork β σ} (h : c.agenda.entries = [])

include h

theorem settle_of_idle : settle body c = c := by
  obtain ⟨⟨now, started, entries⟩, scheduler, state⟩ := c
  cases h
  exact runUntil_ready body (fun _ => true) now started 999999 scheduler state rfl

theorem advance_of_idle (time : Nat) :
    ∃ now, advance body c time = { c with agenda := { c.agenda with now } } := by
  obtain ⟨⟨now, started, entries⟩, scheduler, state⟩ := c
  cases h
  unfold advance
  split
  · exact ⟨now, rfl⟩
  · obtain ⟨fuel, hfuel⟩ : ∃ fuel,
        turnLimit (⟨⟨now, started, []⟩, scheduler, state⟩ : Clockwork β σ) time = fuel + 1 :=
      Nat.exists_eq_succ_of_ne_zero (by simp [turnLimit])
    rw [hfuel]
    exact ⟨_, rfl⟩

end Clockwork

/-! ## A refresh alone -/

namespace Service

/-- The service after a refresh whose source answers at a time, with nothing else under way. -/
def refreshed (service : Service) (time : Nat) : RefreshOutcome × Service :=
  match service.source with
  | none => (.error .noSource, service)
  | some source =>
    let asked := source.ask true
    let (outcome, manager) := service.manager.refresh asked.describe time asked.answer.1
    (outcome, { service with source := some asked.answer.2, manager })

theorem refreshed_eq (service : Service) (time : Nat) :
    ∃ source manager, (service.refreshed time).2 = { service with source, manager } := by
  unfold refreshed
  split <;> exact ⟨_, _, rfl⟩

end Service

namespace Live

open Clockwork (leaveTurn turn_body)

@[simp] theorem service_setService (live : Live) (service : Service) :
    (live.setService service).service = service := rfl

def isServed (caller : Nat) (live : Live) : Bool :=
  (live.state.flights.outcome? caller).isSome

section Alone

variable (now started caller flight : Nat) (scheduler : Scheduler Errand) (service : Service)
  (received : List (Nat × RefreshOutcome)) (endings : List (Nat × Except Fault Unit))

/-- A caller waits alone for a flight, which is the work of a job. -/
def flying (entries : List (JobEntry (Work Errand))) : Live :=
  ⟨⟨now, started, entries⟩, scheduler,
    ⟨service, ⟨flight + 1, some flight, [flight], [], [(caller, flight)], received⟩, endings⟩⟩

/-- The caller has got its outcome, and nothing else is under way. -/
def landed (outcome : RefreshOutcome) : Live :=
  ⟨⟨now, started, []⟩, scheduler,
    ⟨service, ⟨flight + 1, none, [], [], [], received ++ [(caller, outcome)]⟩, endings⟩⟩

theorem conclude_flying (outcome : RefreshOutcome) :
    (flying now started caller flight scheduler service received endings []).conclude flight
        outcome =
      landed now started caller flight scheduler service received endings outcome := by
  simp [conclude, flying, landed, setFlights, Flights.land, Flights.handOut, Agenda.wakeAll]

/-- A flight that ends in a turn ends the wait of its caller. -/
theorem leaveTurn_conclude (job : Nat) (outcome : RefreshOutcome) :
    leaveTurn job
        ((flying now started caller flight scheduler service received endings []).conclude flight
          outcome, none) =
      landed now started caller flight scheduler service received endings outcome := by
  rw [conclude_flying]
  simp [leaveTurn, landed, Agenda.finish, Agenda.wakeAll]

variable {received} (h : received.lookup caller = none) (job fuel : Nat)

include h

theorem isServed_flying (entries : List (JobEntry (Work Errand))) :
    isServed caller
      (flying now started caller flight scheduler service received endings entries) = false := by
  simp [isServed, flying, Flights.outcome?, h]

theorem outcome?_landed (outcome : RefreshOutcome) :
    (landed now started caller flight scheduler service received endings
      outcome).state.flights.outcome? caller = some outcome := by
  simp [landed, Flights.outcome?, List.lookup_append, h]

theorem isServed_landed (outcome : RefreshOutcome) :
    isServed caller
      (landed now started caller flight scheduler service received endings outcome) = true := by
  rw [isServed, outcome?_landed _ _ _ _ _ _ _ h, Option.isSome_some]

theorem runUntil_finish (location : String) (fetched : Except Fault String) :
    let ended := service.manager.endRefresh location now fetched
    Clockwork.runUntil act (isServed caller) (fuel + 1)
        (leaveTurn job
          ((flying now started caller flight scheduler service received endings []).finish flight
            location fetched, none)) =
      landed now started caller flight scheduler { service with manager := ended.2 } received
        endings ended.1 := by
  intro ended
  have hready := isServed_landed now started caller flight scheduler
    { service with manager := ended.2 } endings h ended.1
  have hconclude := leaveTurn_conclude now started caller flight scheduler
    { service with manager := ended.2 } received endings job ended.1
  refine (congrArg _ hconclude).trans ?_
  exact Clockwork.runUntil_ready act _ now started fuel scheduler _ hready

/-- The answer that arrives is the end of the refresh, after it was stored if it is good. -/
theorem runUntil_receive (source : Source) :
    let ended := service.manager.endRefresh source.describe now source.answer.1
    Clockwork.runUntil act (isServed caller) (fuel + 3)
        (leaveTurn job
          ((flying now started caller flight scheduler service received endings []).receive flight
            source)) =
      landed now started caller flight scheduler
        { service with source := some source.answer.2, manager := ended.2 } received endings
        ended.1 := by
  have hfinish (fuel : Nat) :=
    runUntil_finish now started caller flight scheduler
      { service with source := some source.answer.2 } endings h job fuel source.answer.2.describe
      source.answer.1
  rw [← Source.describe_answer]
  unfold receive
  dsimp only
  split
  · refine (Clockwork.runUntil_disk act _ now started job (fuel + 1) _ scheduler _
      (isServed_flying now started caller flight scheduler _ endings h _)).trans ?_
    rw [turn_body]
    exact hfinish fuel
  · exact hfinish (fuel + 2)

omit h in
theorem runUntil_flying (isReady : Live → Bool) (errand : Errand) :
    Clockwork.runUntil act isReady (fuel + 1)
        (flying now started caller flight scheduler service received endings
          [⟨job, .turn, false, .body none errand⟩]) =
      Clockwork.runUntil act isReady fuel (leaveTurn job (act job errand
        (flying now started caller flight scheduler service received endings []))) :=
  (Clockwork.runUntil_turn act isReady now started job fuel _ scheduler _).trans
    (congrArg _ (turn_body act _ job .turn errand))

/-- A refresh asks its source, waits for the answer, and ends with it. -/
theorem runUntil_fetch :
    ∃ time, Clockwork.runUntil act (isServed caller)
        (fuel + 6)
        (flying now started caller flight scheduler service received endings
          [⟨job, .turn, false, .body none (.fetch flight true)⟩]) =
      landed time started caller flight scheduler (service.refreshed time).2 received endings
        (service.refreshed time).1 := by
  rw [runUntil_flying]
  change ∃ time, Clockwork.runUntil act _ (fuel + 5) (leaveTurn job
    (fetch (flying now started caller flight scheduler service received endings []) flight
      true)) = _
  unfold fetch Service.refreshed
  change ∃ time, Clockwork.runUntil act _ (fuel + 5) (leaveTurn job
    (match service.source with | none => _ | some source => _)) = _
  cases hsource : service.source with
  | none =>
    refine ⟨now, (congrArg _ (leaveTurn_conclude ..)).trans ?_⟩
    exact Clockwork.runUntil_ready act _ now started (fuel + 4) scheduler _
      (isServed_landed now started caller flight scheduler service endings h (.error .noSource))
  | some source =>
    let asked := source.ask true
    let begun : Service :=
      { service with source := some asked, manager := service.manager.beginRefresh }
    have hreceive (time fuel : Nat) :=
      runUntil_receive time started caller flight scheduler begun endings h job fuel asked
    have hwaits (entries : List (JobEntry (Work Errand))) :=
      isServed_flying now started caller flight scheduler begun endings h entries
    cases source with
    | script delay answers past =>
      cases delay with
      | zero => exact ⟨now, hreceive now (fuel + 2)⟩
      | succ delay =>
        refine ⟨max now (now + (delay + 1)),
          (Clockwork.runUntil_at act _ now started job (fuel + 3) _ scheduler _
            (hwaits _)).trans ?_⟩
        rw [turn_body]
        exact hreceive _ fuel
    | file path storage =>
      refine ⟨now, (Clockwork.runUntil_disk act _ now started job (fuel + 3) _ scheduler _
        (hwaits _)).trans ?_⟩
      rw [turn_body]
      exact hreceive now fuel
    | server address =>
      refine ⟨now, (Clockwork.runUntil_disk act _ now started job (fuel + 3) _ scheduler _
        (hwaits _)).trans ?_⟩
      rw [turn_body]
      exact hreceive now fuel

end Alone

/-! ## Requests to a quiet service -/

/-- Nothing is under way, and nothing will be of its own accord: no work, no flight, nobody who
waits, and no refreshes in the background. -/
structure Quiet (live : Live) : Prop where
  idle : live.agenda.entries = []
  grounded : ∃ flown received, live.state.flights = ⟨flown, none, [], [], [], received⟩ ∧
    ∀ r ∈ received, r.1 < live.agenda.started
  unscheduled : live.service.plan.enabled = false
  lasting : live.service.disposed = false

theorem quiet_create {config : Config} {session : Session} {source : Option Source}
    {cache : Option Storage} {place : Place} {now : Nat} {service : Service}
    (h : Service.create config session source cache place now = .ok service)
    (hplan : config.refresh.enabled = false) : (create service).Quiet := by
  obtain ⟨processor, log, notes, rfl⟩ := Service.create_eq_ok h
  exact ⟨rfl, ⟨0, [], rfl, fun _ h => absurd h List.not_mem_nil⟩, hplan, rfl⟩

theorem lookup_eq_none_of_lt {received : List (Nat × RefreshOutcome)} {caller : Nat}
    (h : ∀ r ∈ received, r.1 < caller) : received.lookup caller = none := by
  rw [List.lookup_eq_none_iff]
  intro r hr
  simpa using Nat.ne_of_gt (h r hr)

namespace Quiet

variable {live : Live} (h : live.Quiet)

include h

theorem ensureLive : live.service.ensureLive = .ok () := by
  simp [Service.ensureLive, h.lasting]

theorem setService {service : Service} (hplan : service.plan = live.service.plan)
    (hdisposed : service.disposed = live.service.disposed) : (live.setService service).Quiet :=
  ⟨h.idle, h.grounded, hplan ▸ h.unscheduled, hdisposed.trans h.lasting⟩

theorem forceRefresh_eq :
    ∃ time, live.forceRefresh.1 = .ok (some (live.service.refreshed time).1) ∧
      live.forceRefresh.2.service = (live.service.refreshed time).2 ∧
        live.forceRefresh.2.Quiet := by
  have hensure := h.ensureLive
  obtain ⟨⟨now, started, entries⟩, scheduler, service, flights, endings⟩ := live
  obtain ⟨hidle, ⟨flown, received, hflights, hpast⟩, hplan, hlasting⟩ := h
  cases hidle
  cases hflights
  have hlookup : received.lookup started = none := lookup_eq_none_of_lt hpast
  obtain ⟨time, hrun⟩ := runUntil_fetch now (started + 2) started flown scheduler service endings
    hlookup (started + 1) 999994
  have hwaits := isServed_flying now (started + 2) started flown scheduler service endings hlookup
    [⟨started + 1, .turn, false, .body none (.fetch flown true)⟩]
  have hawait := (Clockwork.await_of_not_ready act (isServed started) hwaits).trans hrun
  have hserved := outcome?_landed time (started + 2) started flown scheduler
    (service.refreshed time).2 endings hlookup (service.refreshed time).1
  have hrefresh : refresh ⟨⟨now, started, []⟩, scheduler,
        ⟨service, ⟨flown, none, [], [], [], received⟩, endings⟩⟩ true =
      (some (service.refreshed time).1,
        landed time (started + 2) started flown scheduler (service.refreshed time).2 received
          endings (service.refreshed time).1) :=
    Prod.ext ((congrArg (fun live : Live => live.state.flights.outcome? started) hawait).trans
      hserved) hawait
  unfold forceRefresh
  rw [hensure, hrefresh]
  refine ⟨time, rfl, rfl, rfl, ⟨flown + 1, _, rfl, fun r hr => ?_⟩, ?_, ?_⟩
  · change r.1 < started + 2
    rcases List.mem_append.mp hr with hr | hr
    · exact Nat.lt_add_right 2 (hpast r hr)
    · rw [List.mem_singleton.mp hr]
      exact Nat.lt_add_of_pos_right Nat.two_pos
  · obtain ⟨source, manager, heq⟩ := service.refreshed_eq time
    exact (congrArg (fun service : Service => service.plan.enabled) heq).trans hplan
  · obtain ⟨source, manager, heq⟩ := service.refreshed_eq time
    exact (congrArg Service.disposed heq).trans hlasting

theorem start_eq (hfirst : live.service.started = false) :
    live.start.2.service = live.service.beginStart.endStart.2 ∧ live.start.2.Quiet := by
  have hsettle : (live.setService live.service.beginStart).settleForCache =
      live.setService live.service.beginStart := by
    unfold settleForCache
    split
    · exact Clockwork.settle_of_idle act h.idle
    · rfl
  have hearlier : live.service.earlierStart? = none := by simp [Service.earlierStart?, hfirst]
  have hwants : live.service.beginStart.endStart.2.wantsRefresh = false :=
    Bool.and_eq_false_iff.mpr (.inr h.unscheduled)
  unfold start
  rw [h.ensureLive]
  dsimp only
  rw [hearlier]
  dsimp only
  rw [hsettle, service_setService, if_neg (ne_true_of_eq_false hwants)]
  exact ⟨rfl, h.setService rfl rfl⟩

theorem advance_eq (time : Nat) :
    (live.advance time).service = live.service ∧ (live.advance time).Quiet := by
  obtain ⟨now, heq⟩ := Clockwork.advance_of_idle act h.idle time
  unfold Live.advance
  rw [heq]
  exact ⟨rfl, h.idle, h.grounded, h.unscheduled, h.lasting⟩

end Quiet

end Live

end EventGate
