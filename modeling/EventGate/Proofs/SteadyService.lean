import EventGate.Proofs.OrderlyTurns
import EventGate.Proofs.Requests

/-! # The jobs of a service

Until a service is disposed, its jobs are orderly and all errands are those of refreshes, whatever
is asked of it. Such an errand leaves the scheduler alone, and at most begins another one.
-/

namespace EventGate

open Clockwork Desk

/-- An errand of a refresh. The others are those of a disposal. -/
def Errand.isRefresh : Errand → Bool
  | leave _ | drain .. | flushing .. => false
  | _ => true

/-- Work that is no errand of a disposal. -/
def Work.IsPlain : Work Errand → Prop
  | .body _ errand => errand.isRefresh = true
  | _ => True

/-- A disposed service stays disposed. -/
theorem Desk.Changes.disposed {desk desk' : Desk} (hchanges : Changes desk desk')
    (h : desk.service.disposed = true) : desk'.service.disposed = true := by
  induction hchanges with
  | refl => exact h
  | tail _ hchange ih =>
    cases hchange with
    | aside _ _ hdisposed => exact hdisposed ih
    | _ => exact ih

namespace Live

/-! ## Errands of refreshes -/

/-- What an errand of a refresh does to the jobs: it may begin another one. -/
inductive Minds (live : Live) : Live → Prop where
  | same {after : Live} : SameJobs live after → after.state.endings = live.state.endings →
      Minds live after
  | begin {after : Live} {errand : Errand} : SameJobs live after →
      after.state.endings = live.state.endings → errand.isRefresh = true →
        Minds live (after.spawn none errand).2

namespace Minds

variable {live after : Live} (h : Minds live after)

include h

theorem tends : Tends live after := by
  cases h with
  | same hsame => exact .of_same hsame
  | begin hsame => exact (Tends.of_same hsame).trans (.spawn _ _)

theorem scheduler : after.scheduler = live.scheduler := by
  cases h with
  | same hsame => exact hsame.scheduler
  | begin hsame => exact hsame.scheduler

theorem endings : after.state.endings = live.state.endings := by
  cases h with
  | same _ hendings => exact hendings
  | begin _ hendings => exact hendings

theorem has {job : Nat} {dropped : Bool} {work : Work Errand}
    (hhas : after.agenda.Has job dropped work) :
    live.agenda.Has job dropped work ∨ work.IsPlain := by
  cases h with
  | same hsame => exact .inl (hsame.has.mp hhas)
  | begin hsame _ hrefresh =>
    rcases Agenda.has_start.mp hhas with hhas | ⟨-, -, rfl⟩
    · exact .inl (hsame.has.mp hhas)
    · exact .inr hrefresh

end Minds

theorem minds_refl (live : Live) : Minds live live :=
  .same (.refl live) rfl

theorem minds_call (live : Live) (caller : Nat) (bypass : Bool) :
    Minds live (live.call caller bypass) := by
  unfold call
  dsimp only
  split
  · exact .begin ⟨rfl, rfl, Iff.rfl⟩ rfl rfl
  · exact .same ⟨rfl, rfl, Iff.rfl⟩ rfl

theorem minds_conclude (live : Live) (flight : Nat) (outcome : RefreshOutcome) :
    Minds live (live.conclude flight outcome) :=
  .same ⟨rfl, rfl, Agenda.has_wakeAll _⟩ rfl

theorem minds_finish (live : Live) (flight : Nat) (location : String)
    (fetched : Except Fault String) : Minds live (live.finish flight location fetched) :=
  .same ⟨rfl, rfl, Agenda.has_wakeAll _⟩ rfl

/-- What an errand of a refresh does in a turn, and what is left of it. -/
inductive MindsTurn (live : Live) : Live × Rest → Prop where
  | waits {after : Live} {errand : Errand} (due : Due) : Minds live after →
      errand.isRefresh = true → MindsTurn live (after, some (due, errand))
  | ends {after : Live} : Minds live after → MindsTurn live (after, none)

theorem MindsTurn.minds {live : Live} {acted : Live × Rest} (h : MindsTurn live acted) :
    Minds live acted.1 := by
  cases h with
  | waits _ hminds => exact hminds
  | ends hminds => exact hminds

theorem MindsTurn.isRefresh {live : Live} {acted : Live × Rest} (h : MindsTurn live acted)
    {due : Due} {errand : Errand} (hrest : acted.2 = some (due, errand)) :
    errand.isRefresh = true := by
  cases h with
  | waits _ _ hrefresh =>
    cases hrest
    exact hrefresh
  | ends => cases hrest

theorem minds_setService (live : Live) (service : Service) :
    Minds live (live.setService service) :=
  .same ⟨rfl, rfl, Iff.rfl⟩ rfl

theorem Minds.of_setService {live after : Live} {service : Service}
    (h : Minds (live.setService service) after) : Minds live after := by
  cases h with
  | same hsame hendings => exact .same ⟨hsame.scheduler, hsame.started, hsame.has⟩ hendings
  | begin hsame hendings hrefresh =>
    exact .begin ⟨hsame.scheduler, hsame.started, hsame.has⟩ hendings hrefresh

theorem MindsTurn.of_setService {live : Live} {service : Service} {acted : Live × Rest}
    (h : MindsTurn (live.setService service) acted) : MindsTurn live acted := by
  cases h with
  | waits due hminds hrefresh => exact .waits due hminds.of_setService hrefresh
  | ends hminds => exact .ends hminds.of_setService

theorem mindsTurn_receive (live : Live) (flight : Nat) (source : Source) :
    MindsTurn live (live.receive flight source) := by
  unfold receive
  dsimp only
  split
  · exact .waits .disk (minds_setService live _) rfl
  · exact .ends (.same ⟨rfl, rfl, Agenda.has_wakeAll _⟩ rfl)

theorem mindsTurn_fetch (live : Live) (flight : Nat) (bypass : Bool) :
    MindsTurn live (live.fetch flight bypass) := by
  unfold fetch
  split
  · exact .ends (minds_conclude live flight _)
  · dsimp only
    split
    · exact (mindsTurn_receive _ flight _).of_setService
    · exact .waits _ (minds_setService live _) rfl
    · exact .waits _ (minds_setService live _) rfl

theorem mindsTurn_act (live : Live) (job : Nat) {errand : Errand}
    (h : errand.isRefresh = true) : MindsTurn live (act job errand live) := by
  cases errand with
  | ask bypass => exact .waits .call (minds_call live job bypass) rfl
  | aboard => exact .ends (minds_refl live)
  | fetch flight bypass => exact mindsTurn_fetch live flight bypass
  | answered flight =>
    unfold act
    dsimp only
    split
    · exact mindsTurn_receive live flight _
    · exact .ends (minds_conclude live flight _)
  | store flight fetched => exact .ends (minds_finish live flight _ fetched)
  | leave | drain | flushing => cases h

/-! ## Steady jobs -/

/-- Jobs are orderly, all errands are those of refreshes but for those of one disposal, and what has
ended had a job. -/
structure Steady (disposal : Option Nat) (live : Live) : Prop where
  orderly : Orderly live
  plain {job dropped work} : live.agenda.Has job dropped work →
    work.IsPlain ∨ disposal = some job ∧ work.runOf? = none
  bodies {task t} : live.task? task = some t → t.body.isRefresh = true
  recorded {ending} : ending ∈ live.state.endings → ending.1 < live.agenda.started

theorem Steady.of_tends {disposal : Option Nat} {live after : Live} (h : live.Steady disposal)
    (htends : Tends live after)
    (hplain : ∀ {job dropped work}, after.agenda.Has job dropped work →
      live.agenda.Has job dropped work ∨ work.IsPlain)
    (hendings : ∀ {ending}, ending ∈ after.state.endings →
      ending ∈ live.state.endings ∨ ending.1 < after.agenda.started) : after.Steady disposal where
  orderly := htends.orderly h.orderly
  plain hhas := (hplain hhas).elim h.plain .inl
  bodies ht' := by
    obtain ⟨t, ht, -, -, hbody, -⟩ := htends.task_of ht'
    exact hbody ▸ h.bodies ht
  recorded hmem :=
    (hendings hmem).elim (fun hmem => (h.recorded hmem).trans_le htends.started) id

theorem Steady.of_same {disposal : Option Nat} {live after : Live} (h : live.Steady disposal)
    (hsame : SameJobs live after) (hendings : after.state.endings = live.state.endings) :
    after.Steady disposal :=
  h.of_tends (.of_same hsame) (fun hhas => .inl (hsame.has.mp hhas))
    fun hmem => .inl (hendings ▸ hmem)

theorem steady_create (service : Service) : (create service).Steady none where
  orderly := orderly_create _
  plain := by
    rintro job dropped work ⟨due, hmem⟩
    cases hmem
  bodies ht := by cases ht
  recorded hmem := by cases hmem

theorem Turned.endings {live after : Live} {entry : JobEntry (Work Errand)}
    (h : Turned Minds Work.IsPlain live entry after) :
    after.state.endings = live.state.endings := by
  have hacted {acted : Live} (hacted : Acted Minds (live.without entry.job) entry.work acted) :
      acted.state.endings = live.state.endings := by
    cases hacted with
    | body hminds => exact hminds.endings
    | run => rfl
  cases h with
  | @waits acted _ _ hdone =>
    change acted.state.endings = _
    exact hacted hdone
  | @ends acted hdone =>
    change (Clockwork.releaseGuard acted entry.work.runOf?).state.endings = _
    rw [state_releaseGuard]
    exact hacted hdone

/-- A turn of plain work keeps the jobs steady, and leaves it to a disposal to end itself. -/
theorem Steady.turn {disposal : Option Nat} {live : Live} (h : live.Steady disposal)
    {entry : JobEntry (Work Errand)} (hentry : entry ∈ live.agenda.entries)
    (hplain : entry.work.IsPlain) :
    let after : Live := Clockwork.turn act (live.without entry.job) entry
    after.Steady disposal ∧ Calm live after ∧ after.state.endings = live.state.endings ∧
      ∀ {job dropped work}, after.agenda.Has job dropped work →
        live.agenda.Has job dropped work ∨ work.IsPlain := by
  intro after
  have hturned : Turned Minds Work.IsPlain live entry after := by
    refine turned_of_body minds_refl (fun _ => trivial) (h.orderly.undropped (.of_mem hentry))
      fun task errand hwork => ?_
    rw [hwork] at hplain
    have hminds := mindsTurn_act (live.without entry.job) entry.job hplain
    exact ⟨hminds.minds, fun due errand' hrest => hminds.isRefresh hrest⟩
  have hhas {job : Nat} {dropped : Bool} {work : Work Errand}
      (hhas : after.agenda.Has job dropped work) :
      live.agenda.Has job dropped work ∨ work.IsPlain :=
    (Turned.has_cases (fun hminds _ _ _ => Minds.has hminds) id (fun _ ht => h.bodies ht) hturned
      hhas).imp_left And.left
  have hcalm : Calm live after :=
    hturned.calm (fun hminds => ⟨hminds.tends, hminds.scheduler⟩) h.orderly hentry
  have hendings := Turned.endings hturned
  refine ⟨⟨hturned.orderly Minds.tends h.orderly hentry, fun hnew => ?_, fun ht' => ?_,
    fun hmem => ?_⟩, hcalm, hendings, hhas⟩
  · exact (hhas hnew).elim h.plain .inl
  · obtain ⟨t, ht, -, -, hbody, -⟩ := exists_of_rel_some_right (hcalm.task _) ht'
    exact hbody ▸ h.bodies ht
  · exact (h.recorded (hendings ▸ hmem)).trans_le hcalm.started

theorem Steady.course {live after : Live} (h : live.Steady none) (hcourse : Course act live after) :
    after.Steady none := by
  induction hcourse with
  | refl => exact h
  | tail _ hstep ih =>
    cases hstep with
    | turn hentry _ =>
      have hplain := (ih.plain (.of_mem hentry)).resolve_right fun hdisposal => nomatch hdisposal.1
      exact (ih.turn hentry hplain).1
    | disk => exact ih.of_same ⟨rfl, rfl, Agenda.has_answerDisk⟩ rfl
    | clock => exact ih.of_same ⟨rfl, rfl, Agenda.has_moveTo⟩ rfl

/-! ## Requests -/

theorem Steady.setService {live : Live} (h : live.Steady none) (service : Service) :
    (live.setService service).Steady none :=
  h.of_same ⟨rfl, rfl, Iff.rfl⟩ rfl

theorem Steady.scheduleTimed {live : Live} (h : live.Steady none) (plan : RunPlan) :
    Steady none (live.scheduleTimed 0 plan (.ask false)).2 where
  orderly := h.orderly.scheduleTimed 0 plan (.ask false)
  plain hhas := by
    rcases Agenda.has_start.mp hhas with hhas | ⟨-, -, rfl⟩
    · exact h.plain hhas
    · exact .inl trivial
  bodies ht := by
    rcases task?_scheduleTimed ht with ht | ⟨-, -, hbody⟩
    · exact h.bodies ht
    · rw [hbody]
      rfl
  recorded hmem := (h.recorded hmem).trans (Nat.lt_succ_self _)

theorem Steady.start {live : Live} (h : live.Steady none) : live.start.2.Steady none := by
  have hsettled {live : Live} (h : live.Steady none) : live.settleForCache.Steady none := by
    unfold settleForCache
    split
    · exact h.course (course_settle act live)
    · exact h
  unfold Live.start
  split
  · exact h
  · split
    · exact h
    · dsimp only
      split
      · exact ((hsettled (h.setService _)).setService _).scheduleTimed _
      · exact (hsettled (h.setService _)).setService _

theorem Steady.refresh {live : Live} (h : live.Steady none) (bypass : Bool) :
    (live.refresh bypass).2.Steady none := by
  have hreserved : Steady none { live with agenda := live.agenda.reserve.2 } :=
    h.of_tends (Tends.reserve live) .inl .inl
  have hcall := minds_call { live with agenda := live.agenda.reserve.2 } live.agenda.started bypass
  have hcalled := hreserved.of_tends hcall.tends hcall.has fun hmem => .inl (hcall.endings ▸ hmem)
  exact hcalled.course (course_await act
    (fun live : Live => (live.state.flights.outcome? _).isSome) _)

theorem Steady.schedule {live : Live} (h : live.Steady none) :
    Steady none (live.schedule (.ask true)) :=
  h.of_tends (.schedule live _) (fun hhas => (has_schedule hhas).imp_right (by rintro rfl; rfl))
    fun hmem => .inl (state_schedule live (.ask true) ▸ hmem)

theorem disposed_disposeNow (live : Live) : live.disposeNow.service.disposed = true := by
  unfold disposeNow
  split
  · assumption
  · let left : Live := live.setService { live.service with disposed := true }
    change (Clockwork.dispose left).state.service.disposed = true
    rw [state_dispose]
    rfl

theorem disposed_disposeWithin (live : Live) (budget : Nat) :
    (live.disposeWithin budget).2.service.disposed = true := by
  let off : Live := { live with agenda := live.agenda.reserve.2 }
  have hleft : (off.leave live.agenda.started budget).1.service.disposed = true := by
    unfold leave
    split
    · assumption
    · exact (changes_goOn (beginShutdown (off.setService { off.service with disposed := true })).2
        live.agenda.started _ _).disposed rfl
  have hturn : (runNow act live (.leave budget)).2.state.service.disposed = true := by
    change (Clockwork.turn act off
      ⟨live.agenda.started, .turn, false, .body none (.leave budget)⟩).state.service.disposed = true
    rw [turn_body, state_leaveTurn]
    exact hleft
  exact (changes_course (course_await act _ _)).disposed hturn

/-- Until a service is disposed, its jobs are steady. -/
theorem Steady.next {live : Live} (h : live.Steady none) (request : Request) :
    (live.next request).service.disposed = true ∨ (live.next request).Steady none := by
  cases request with
  | start => exact .inr h.start
  | refresh =>
    right
    change live.forceRefresh.2.Steady none
    unfold forceRefresh
    split
    · exact h
    · exact h.refresh true
  | refreshLater =>
    right
    change live.requestRefresh.2.Steady none
    unfold requestRefresh
    split
    · exact h
    · exact h.schedule
  | post now event =>
    right
    unfold Live.next
    dsimp only
    split
    · exact h.setService _
    · exact h
  | register channel traits =>
    right
    unfold Live.next
    dsimp only
    split
    · exact h.setService _
    · exact h
  | sourceFile storage =>
    right
    unfold Live.next setSourceFile
    dsimp only
    split
    · exact h.setService _
    · exact h
  | wait time => exact .inr (h.course (course_advance act live time))
  | dispose => exact .inl live.disposed_disposeNow
  | disposeWithin budget => exact .inl (live.disposed_disposeWithin budget)

theorem disposed_next {live : Live} (h : live.service.disposed = true) (request : Request) :
    (live.next request).service.disposed = true := by
  by_cases hstart : request = .start
  · subst hstart
    have hrefused : live.start.2 = live := by simp [Live.start, Service.ensureLive, h]
    exact (congrArg (fun live : Live => live.service.disposed) hrefused).trans h
  · exact (changes_next live hstart).disposed h

theorem steady_after {live : Live} (h : live.Steady none) (requests : List Request)
    (hlive : (live.after requests).service.disposed = false) :
    (live.after requests).Steady none := by
  have hstays {live : Live} (h : live.service.disposed = true) (requests : List Request) :
      (live.after requests).service.disposed = true := by
    induction requests generalizing live with
    | nil => exact h
    | cons request requests ih => exact ih (disposed_next h request)
  induction requests generalizing live with
  | nil => exact h
  | cons request requests ih =>
    rcases h.next request with hdisposed | hsteady
    · rw [after_cons, hstays hdisposed] at hlive
      cases hlive
    · exact ih hsteady hlive

end Live

end EventGate
