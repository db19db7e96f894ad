import EventGate.Proofs.Errands

/-! # Requests to a service

A host's requests in any order. All but a start leave the manager to the errands.
-/

namespace EventGate

open Desk

/-- What a host asks of a service. Somebody else may change the file that is the source, and time
passes between requests. -/
inductive Request where
  | start
  | refresh
  | refreshLater
  | post (now : Nat) (event : Event)
  | register (channel : HostChannel) (traits : ChannelTraits)
  | sourceFile (storage : Storage)
  | wait (time : Nat)
  | dispose
  | disposeWithin (budget : Nat)

namespace Service

theorem post_eq_ok {service after : Service} {now : Nat} {event : Event} {outcome : Outcome Sink}
    (h : service.post now event = .ok (outcome, after)) :
    ∃ processor log notes, after = { service with processor, log, notes } := by
  have hdeliver (event : Event) (deliveries : List (Delivery Sink)) (service : Service) :
      ∃ log notes, deliveries.foldl (deliver now event) service =
        { service with log, notes } := by
    induction deliveries generalizing service with
    | nil => exact ⟨_, _, rfl⟩
    | cons delivery deliveries ih =>
      obtain ⟨log, notes, heq⟩ := ih (deliver now event service delivery)
      rw [List.foldl_cons, heq]
      unfold deliver
      split <;> exact ⟨log, notes, rfl⟩
  unfold post at h
  cases hlive : service.ensureLive with
  | error fault =>
    rw [hlive] at h
    cases h
  | ok _ =>
    rw [hlive] at h
    obtain ⟨log, notes, heq⟩ := hdeliver _ _ _
    cases h
    exact ⟨_, log, notes, heq⟩

theorem admitChannel_eq (service : Service) (registration : Registration) (sink : Sink) :
    ∃ processor log,
      (service.admitChannel registration sink).2 = { service with processor, log } := by
  unfold admitChannel releaseLog
  dsimp only
  split <;> exact ⟨_, _, rfl⟩

theorem create_eq_ok {config : Config} {session : Session} {source : Option Source}
    {cache : Option Storage} {place : Place} {now : Nat} {service : Service}
    (h : create config session source cache place now = .ok service) :
    ∃ processor log notes, service =
      { processor, manager := .create cache, source, plan := config.refresh, log, notes,
        started := false, disposed := false } := by
  unfold create at h
  cases hlog : config.log with
  | none =>
    rw [hlog] at h
    cases h
    exact ⟨_, _, _, rfl⟩
  | some settings =>
    rw [hlog] at h
    dsimp only at h
    cases hopen : LogChannel.create logId .default settings place now with
    | error fault =>
      rw [hopen] at h
      cases h
    | ok log =>
      rw [hopen] at h
      cases h
      obtain ⟨processor, log, heq⟩ := admitChannel_eq _ ⟨logId, .default⟩ .log
      exact ⟨processor, log, _, heq⟩

theorem register_eq_ok {service after : Service} {channel : HostChannel} {traits : ChannelTraits}
    {accepted : Bool} (h : service.register channel traits = .ok (accepted, after)) :
    ∃ processor log, after = { service with processor, log } := by
  unfold register at h
  cases hlive : service.ensureLive with
  | error fault =>
    rw [hlive] at h
    cases h
  | ok _ =>
    rw [hlive] at h
    obtain ⟨processor, log, heq⟩ := service.admitChannel_eq ⟨channel.id, traits⟩ (.host channel)
    cases h
    exact ⟨processor, log, heq⟩

end Service

namespace Live

def next (live : Live) : Request → Live
  | .start => live.start.2
  | .refresh => live.forceRefresh.2
  | .refreshLater => live.requestRefresh.2
  | .post now event =>
    match live.service.post now event with
    | .ok (_, service) => live.setService service
    | .error _ => live
  | .register channel traits =>
    match live.service.register channel traits with
    | .ok (_, service) => live.setService service
    | .error _ => live
  | .sourceFile storage => live.setSourceFile storage
  | .wait time => live.advance time
  | .dispose => live.disposeNow
  | .disposeWithin budget => (live.disposeWithin budget).2

def after (live : Live) (requests : List Request) : Live :=
  requests.foldl next live

@[simp] theorem after_nil (live : Live) : live.after [] = live := rfl

@[simp] theorem after_cons (live : Live) (request : Request) (requests : List Request) :
    live.after (request :: requests) = (live.next request).after requests := rfl

/-! ## What requests make of the desk -/

theorem changes_setService (live : Live) {service : Service}
    (hmanager : service.manager = live.service.manager)
    (hstarted : service.started = live.service.started)
    (hdisposed : live.service.disposed = true → service.disposed = true) :
    Changes live.state (live.setService service).state :=
  .single (.aside hmanager hstarted hdisposed rfl)

theorem changes_course {live live' : Live} (h : Clockwork.Course act live live') :
    Changes live.state live'.state :=
  makes_act.course h

theorem changes_refresh (live : Live) (bypass : Bool) :
    Changes live.state (live.refresh bypass).2.state := by
  let caller := live.agenda.started
  have hcall := changes_call { live with agenda := live.agenda.reserve.2 } caller bypass
  have hawait := Clockwork.course_await act
    (fun live : Live => (live.state.flights.outcome? caller).isSome)
    (call { live with agenda := live.agenda.reserve.2 } caller bypass)
  exact hcall.trans (changes_course hawait)

theorem changes_forceRefresh (live : Live) : Changes live.state live.forceRefresh.2.state := by
  unfold forceRefresh
  split
  · exact .refl
  · exact changes_refresh live true

theorem changes_requestRefresh (live : Live) : Changes live.state live.requestRefresh.2.state := by
  unfold requestRefresh
  split
  · exact .refl
  · dsimp only
    rw [Clockwork.state_schedule]

theorem changes_disposeNow (live : Live) : Changes live.state live.disposeNow.state := by
  unfold disposeNow
  split
  · exact .refl
  · dsimp only
    rw [Clockwork.state_dispose]
    exact changes_setService live rfl rfl fun _ => rfl

theorem changes_disposeWithin (live : Live) (budget : Nat) :
    Changes live.state (live.disposeWithin budget).2.state := by
  let job := live.agenda.started
  have hturn := makes_act.turn { live with agenda := live.agenda.reserve.2 }
    ⟨job, .turn, false, .body none (.leave budget)⟩
  have hawait := Clockwork.course_await act (fun live : Live => (ending? live job).isSome)
    (Clockwork.runNow act live (.leave budget)).2
  exact hturn.trans (changes_course hawait)

theorem changes_next (live : Live) {request : Request} (h : request ≠ .start) :
    Changes live.state (live.next request).state := by
  cases request with
  | start => exact absurd rfl h
  | refresh => exact changes_forceRefresh live
  | refreshLater => exact changes_requestRefresh live
  | post now event =>
    unfold next
    dsimp only
    split
    · obtain ⟨processor, log, notes, rfl⟩ := Service.post_eq_ok ‹_›
      exact changes_setService live rfl rfl id
    · exact .refl
  | register channel traits =>
    unfold next
    dsimp only
    split
    · obtain ⟨processor, log, rfl⟩ := Service.register_eq_ok ‹_›
      exact changes_setService live rfl rfl id
    · exact .refl
  | sourceFile storage =>
    unfold next setSourceFile
    dsimp only
    split
    · exact changes_setService live rfl rfl id
    · exact .refl
  | wait time => exact changes_course (Clockwork.course_advance act live time)
  | dispose => exact changes_disposeNow live
  | disposeWithin budget => exact changes_disposeWithin live budget

end Live

namespace Sample

def unscheduled : Config :=
  { Config.standard with refresh := { RunPlan.standard with enabled := false } }

def scripted (cache : Option Storage) (answers : List (Except Fault String)) : Service where
  processor := .standard (.create "s") (.create (Validator.standard false [])) 0
  manager := .create cache
  source := some (.script 0 answers [])
  plan := unscheduled.refresh
  log := none
  notes := []
  started := false
  disposed := false

theorem create_scripted (cache : Option Storage) (answers : List (Except Fault String)) :
    Service.create unscheduled (.create "s") (some (.script 0 answers [])) cache .missing 0 =
      .ok (scripted cache answers) := rfl

end Sample

end EventGate
