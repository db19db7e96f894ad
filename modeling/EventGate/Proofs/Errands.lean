import EventGate.Proofs.Turns
import EventGate.Service.Live

/-! # Errands

What the errands of a service make of its desk. The manager and the flights change in four ways
only: somebody calls, a fetch begins, a refresh ends with its flight, or there is no source.
-/

namespace EventGate

open Relation

namespace Desk

def setManager (desk : Desk) (manager : Manager) : Desk :=
  { desk with service := { desk.service with manager } }

def conclude (desk : Desk) (flight : Nat) (outcome : RefreshOutcome) : Desk :=
  { desk with flights := (desk.flights.land flight outcome).handOut flight }

/-- A change of the desk. What is changed aside is of no concern to the manager or to those who wait
for a refresh. -/
inductive Change : Desk → Desk → Prop where
  | aside {desk desk' : Desk} :
    desk'.service.manager = desk.service.manager → desk'.service.started = desk.service.started →
      (desk.service.disposed = true → desk'.service.disposed = true) →
        desk'.flights = desk.flights → Change desk desk'
  | call (desk : Desk) (caller : Nat) :
    Change desk { desk with flights := (desk.flights.call caller).2 }
  | beginRefresh (desk : Desk) : Change desk (desk.setManager desk.service.manager.beginRefresh)
  | endRefresh (desk : Desk) (flight : Nat) (location : String) (now : Nat)
    (fetched : Except Fault String) :
    Change desk
      ((desk.setManager (desk.service.manager.endRefresh location now fetched).2).conclude flight
        (desk.service.manager.endRefresh location now fetched).1)
  | noSource (desk : Desk) (flight : Nat) : Change desk (desk.conclude flight (.error .noSource))

abbrev Changes : Desk → Desk → Prop :=
  ReflTransGen Change

end Desk

namespace Live

open Desk

theorem changes_call (live : Live) (caller : Nat) (bypass : Bool) :
    Changes live.state (live.call caller bypass).state := by
  have hcall := ReflTransGen.single (Change.call live.state caller)
  unfold Live.call
  dsimp only
  split <;> exact hcall

theorem changes_conclude (live : Live) (flight : Nat) :
    Changes live.state (live.conclude flight (.error .noSource)).state :=
  .single (.noSource live.state flight)

theorem changes_finish (live : Live) (flight : Nat) (location : String)
    (fetched : Except Fault String) :
    Changes live.state (live.finish flight location fetched).state :=
  .single (.endRefresh live.state flight location live.now fetched)

theorem changes_receive (live : Live) (flight : Nat) (source : Source) :
    Changes live.state (live.receive flight source).1.state := by
  have hasked (source : Source) :
      Changes live.state (live.setService { live.service with source := some source }).state :=
    .single (.aside rfl rfl id rfl)
  unfold receive
  dsimp only
  split
  · exact hasked _
  · exact (hasked source.answer.2).trans (changes_finish _ flight _ _)

theorem changes_fetch (live : Live) (flight : Nat) (bypass : Bool) :
    Changes live.state (live.fetch flight bypass).1.state := by
  unfold fetch
  split
  · exact changes_conclude live flight
  · rename_i source _
    have hbegun : Changes live.state (live.setService { live.service with
        source := some (source.ask bypass), manager := live.service.manager.beginRefresh }).state :=
      .tail (.single (.beginRefresh live.state)) (.aside rfl rfl id rfl)
    dsimp only
    split
    · exact hbegun.trans (changes_receive _ flight _)
    · exact hbegun
    · exact hbegun

/-! ## Disposal -/

theorem changes_note (live : Live) (note : ChannelNote) :
    Changes live.state (live.note note).state :=
  .single (.aside rfl rfl id rfl)

theorem changes_ended (live : Live) (job : Nat) (result : Except Fault Unit) :
    Changes live.state (live.ended job result).1.state :=
  .single (.aside rfl rfl id rfl)

theorem changes_giveUp (live : Live) (job : Nat) :
    Changes live.state (live.giveUp job).1.state := by
  have hended := changes_ended (Clockwork.dispose live) job (.error .timedOut)
  rwa [Clockwork.state_dispose] at hended

theorem changes_flushed (live : Live) (sink : Sink) :
    Changes live.state (live.flushed sink).1.state := by
  cases sink with
  | host channel =>
    unfold flushed
    dsimp only
    split
    · exact .refl
    · exact changes_note live _
  | log =>
    unfold flushed
    dsimp only
    split
    · exact .refl
    · split
      · exact .single (.aside rfl rfl id rfl)
      · exact .refl

theorem changes_flushAll (live : Live) (job deadline : Nat) (first : Option Fault)
    (sinks : List Sink) : Changes live.state (live.flushAll job deadline first sinks).1.state := by
  induction sinks generalizing live first with
  | nil => exact changes_ended live job _
  | cons sink rest ih =>
    cases sink with
    | log =>
      unfold flushAll
      split
      · exact changes_giveUp live job
      · exact .refl
    | host channel =>
      have hnote := changes_note live (.flushing channel.id)
      unfold flushAll
      dsimp only
      split
      · exact (hnote.trans (changes_flushed _ _)).trans (ih _ _)
      · split
        · exact hnote.trans (changes_giveUp _ job)
        · exact hnote

theorem changes_goOn (live : Live) (job : Nat) (todo : Drain) (deadline : Nat) :
    Changes live.state (live.goOn job todo deadline).1.state := by
  unfold goOn
  dsimp only
  rw [← Clockwork.state_proceed todo live]
  split
  · split
    · exact changes_giveUp _ job
    · exact .refl
  · exact changes_flushAll _ job deadline none _

theorem changes_leave (live : Live) (job budget : Nat) :
    Changes live.state (live.leave job budget).1.state := by
  unfold leave
  split
  · exact changes_ended live job _
  · have hleft : Changes live.state
        (live.setService { live.service with disposed := true }).state :=
      .single (.aside rfl rfl (fun _ => rfl) rfl)
    exact hleft.trans (changes_goOn (Clockwork.beginShutdown
      (live.setService { live.service with disposed := true })).2 job _ _)

theorem makes_act : Clockwork.Makes act Change := by
  intro job errand live
  cases errand with
  | ask bypass => exact changes_call live job bypass
  | aboard => exact .refl
  | fetch flight bypass => exact changes_fetch live flight bypass
  | answered flight =>
    unfold act
    dsimp only
    split
    · exact changes_receive live flight _
    · exact changes_conclude live flight
  | store flight fetched => exact changes_finish live flight _ fetched
  | leave budget => exact changes_leave live job budget
  | drain todo deadline => exact changes_goOn live job todo deadline
  | flushing sink ends rest deadline first =>
    unfold act
    dsimp only
    split
    · exact (changes_flushed live sink).trans (changes_flushAll _ job deadline _ rest)
    · exact changes_giveUp live job

end Live

end EventGate
