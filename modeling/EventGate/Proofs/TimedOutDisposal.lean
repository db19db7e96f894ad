import EventGate.Proofs.Draining
import EventGate.Proofs.LastGoodManifest
import EventGate.Proofs.SteadyService

/-! # A disposal that times out

A disposal shuts the scheduler down, and then waits for its work and for the channels. When its time
is up it gives up: it asks the scheduler to drop what is left, but a scheduler that was shut down
has nothing dropped any more. What the disposal waited for is left running.
-/

namespace EventGate

open Clockwork Desk

def Errand.isFlush : Errand → Bool
  | flushing .. => true
  | _ => false

namespace Live

/-- What a disposal knows at a wait: its drain covers all jobs that were held at its beginning, and
while the channels are flushed these jobs are over. -/
def Stage (live c : Live) : Errand → Prop
  | .leave _ => False
  | .drain todo _ => Covers c todo live.Holds (live.agenda.started + 1)
  | .flushing .. => ∀ job, live.Holds job → Over c job
  | _ => True

/-- The job that keeps a disposal from going on with its drain, if there is one. When channels are
flushed the drain is at its end. -/
def stuckOn? (live : Live) : Errand → Option Nat
  | .leave _ =>
    let (todo, left) : Drain × Live :=
      beginShutdown (live.setService { live.service with disposed := true })
    awaited? (proceed todo left).1
  | .drain todo _ => awaited? (proceed todo live).1
  | _ => none

/-- What a disposal leaves behind that gives up. The job on which its drain is stuck goes on: one
that was held at the beginning of the disposal, or one that has begun since. Without such a job all
that were held are over. -/
def Leftover (live : Live) (stuck : Option Nat) (c : Live) : Prop :=
  match stuck with
  | some job => c.agenda.isOver job = false ∧ (live.Holds job ∨ live.agenda.started < job)
  | none => ∀ job, live.Holds job → c.agenda.isOver job = true

theorem Leftover.of_same {live c c' : Live} {stuck : Option Nat} (h : Leftover live stuck c)
    (hsame : SameJobs c c') : Leftover live stuck c' := by
  unfold Leftover
  simp only [hsame.isOver_eq]
  exact h

/-- What a turn of a disposal comes to: a wait, or an answer. -/
inductive Parts (live : Live) (stuck : Option Nat) (c : Live) : Live × Rest → Prop where
  | waits {after : Live} {errand : Errand} (due : Due) : Tends c after →
      after.agenda.started = c.agenda.started → after.scheduler.disposed = true →
        after.state.endings = c.state.endings → Stage live after errand →
          Parts live stuck c (after, some (due, errand))
  | ends {after : Live} {answer : Except Fault Unit} : Tends c after →
      after.agenda.started = c.agenda.started → after.scheduler.disposed = true →
        after.state.endings = c.state.endings ++ [(live.agenda.started, answer)] →
          (answer = .error .timedOut → Leftover live stuck after) →
            Parts live stuck c (after, none)

/-! ## Turns of a disposal -/

section Parts

variable {live c : Live} {stuck : Option Nat}

theorem Parts.of_tends {mid : Live} {result : Live × Rest} (h : Parts live stuck mid result)
    (htends : Tends c mid) (hstarted : mid.agenda.started = c.agenda.started)
    (hendings : mid.state.endings = c.state.endings) : Parts live stuck c result := by
  cases h with
  | waits due htends' hstarted' hshut hendings' hstage =>
    exact .waits due (htends.trans htends') (hstarted'.trans hstarted) hshut
      (hendings'.trans hendings) hstage
  | ends htends' hstarted' hshut hendings' hanswer =>
    exact .ends (htends.trans htends') (hstarted'.trans hstarted) hshut
      (hendings ▸ hendings') hanswer

theorem parts_ended (hshut : c.scheduler.disposed = true) {answer : Except Fault Unit}
    (hanswer : answer = .error .timedOut → Leftover live stuck c) :
    Parts live stuck c (c.ended live.agenda.started answer) :=
  .ends (.of_same ⟨rfl, rfl, Iff.rfl⟩) rfl hshut rfl hanswer

/-- To give up drops nothing, since the scheduler was shut down before. -/
theorem parts_giveUp (hshut : c.scheduler.disposed = true) (h : Leftover live stuck c) :
    Parts live stuck c (c.giveUp live.agenda.started) := by
  unfold giveUp
  rw [dispose_of_disposed hshut]
  exact parts_ended hshut fun _ => h

theorem sameJobs_flushed (live : Live) (sink : Sink) :
    SameJobs live (live.flushed sink).1 ∧
      (live.flushed sink).1.state.endings = live.state.endings := by
  cases sink with
  | host channel =>
    unfold flushed
    dsimp only
    split <;> exact ⟨⟨rfl, rfl, Iff.rfl⟩, rfl⟩
  | log =>
    unfold flushed
    dsimp only
    split
    · exact ⟨.refl live, rfl⟩
    · split <;> exact ⟨⟨rfl, rfl, Iff.rfl⟩, rfl⟩

theorem parts_flushAll (hshut : c.scheduler.disposed = true)
    (hover : ∀ job, live.Holds job → Over c job) (deadline : Nat) (first : Option Fault)
    (sinks : List Sink) :
    Parts live none c (c.flushAll live.agenda.started deadline first sinks) := by
  induction sinks generalizing c first with
  | nil => exact parts_ended hshut fun _ job hheld => (hover job hheld).2
  | cons sink rest ih =>
    cases sink with
    | log =>
      unfold flushAll
      split
      · exact parts_giveUp hshut fun job hheld => (hover job hheld).2
      · exact .waits _ (.refl c) rfl hshut rfl hover
    | host channel =>
      let noted : Live := c.note (.flushing channel.id)
      have hnote : SameJobs c noted := ⟨rfl, rfl, Iff.rfl⟩
      have hnoted (job : Nat) (hheld : live.Holds job) : Over noted job := hover job hheld
      have hparts {result : Live × Rest} (h : Parts live none noted result) :
          Parts live none c result :=
        h.of_tends (.of_same hnote) rfl rfl
      unfold flushAll
      dsimp only
      split
      · obtain ⟨hsame, hendings⟩ := sameJobs_flushed noted (.host channel)
        have htends := Tends.of_same hsame
        refine hparts (Parts.of_tends ?_ htends hsame.started hendings)
        exact ih (hsame.scheduler ▸ hshut)
          (fun job hheld => htends.stays_over (hnoted job hheld)) _
      · split
        · exact hparts (parts_giveUp hshut fun job hheld => (hnoted job hheld).2)
        · exact hparts (.waits _ (.refl noted) rfl hshut rfl hnoted)

/-- A drain that cannot go on at the deadline is given up, and leaves the job running that it waits
for. -/
theorem parts_goOn {todo : Drain} (hshut : c.scheduler.disposed = true)
    (hcovers : Covers c todo live.Holds (live.agenda.started + 1)) (deadline : Nat) :
    Parts live (awaited? (proceed todo c).1) c
      (c.goOn live.agenda.started todo deadline) := by
  obtain ⟨htends, hcovers, hnext⟩ := hcovers.proceed
  obtain ⟨hstarted, hdisposed⟩ := kept_proceed todo c
  have hendings : (proceed todo c).2.state.endings = c.state.endings := by rw [state_proceed]
  have hshut : (proceed todo c).2.scheduler.disposed = true := hdisposed.trans hshut
  unfold goOn
  dsimp only
  refine Parts.of_tends ?_ htends hstarted hendings
  generalize proceed todo c = result at hcovers hnext hshut ⊢
  obtain ⟨left, after⟩ := result
  dsimp only at hcovers hnext hshut ⊢
  cases hawaited : awaited? left with
  | some job =>
    rw [hawaited] at hnext
    obtain ⟨hrunning, hawait⟩ := hnext
    dsimp only
    split
    · exact parts_giveUp hshut ⟨hrunning, (hcovers.known hawait).2⟩
    · exact .waits _ (.refl after) rfl hshut rfl hcovers
  | none =>
    rw [hawaited] at hnext
    refine parts_flushAll hshut (fun job hheld => ?_) deadline none _
    rcases hcovers.covered hheld with hover | hawait
    · exact hover
    · rw [hnext] at hawait
      exact absurd hawait (not_awaits_nil after job)

theorem parts_act {errand : Errand} (hshut : c.scheduler.disposed = true)
    (hstage : Stage live c errand) (hdisposal : errand.isRefresh = false) :
    Parts live (c.stuckOn? errand) c (act live.agenda.started errand c) := by
  cases errand with
  | leave budget => exact absurd hstage id
  | drain todo deadline => exact parts_goOn hshut hstage deadline
  | flushing sink ends rest deadline first =>
    unfold act
    dsimp only
    split
    · obtain ⟨hsame, hendings⟩ := sameJobs_flushed c sink
      have htends := Tends.of_same hsame
      refine Parts.of_tends ?_ htends hsame.started hendings
      exact parts_flushAll (hsame.scheduler ▸ hshut)
        (fun job hheld => htends.stays_over (hstage job hheld)) deadline _ rest
    · exact parts_giveUp hshut fun job hheld => (hstage job hheld).2
  | _ => cases hdisposal

/-- A disposal begins with a drain that covers what the scheduler holds. -/
theorem parts_leave (h : Orderly live) (hlive : live.service.disposed = false) (budget : Nat) :
    let off : Live := { live with agenda := live.agenda.reserve.2 }
    Parts live (off.stuckOn? (.leave budget)) off
      (act live.agenda.started (.leave budget) off) := by
  intro off
  let left : Live := off.setService { off.service with disposed := true }
  have htends : Tends off (beginShutdown left).2 := {
    started := le_rfl
    stays := id
    comes := .inl
    pending := .inl
    task := fun _ => rel_loses_refl _ }
  have hcovers : Covers (beginShutdown left).2 (beginShutdown left).1 live.Holds
      (live.agenda.started + 1) := {
    covered := fun hheld => .inr ((awaits_beginShutdown left _).mpr hheld)
    known := fun hawait => by
      have hheld : live.Holds _ := (awaits_beginShutdown left _).mp hawait
      exact ⟨(h.lt_of_holds hheld).trans (Nat.lt_succ_self _), .inl hheld⟩ }
  have hparts := (parts_goOn rfl hcovers (left.now + budget)).of_tends htends rfl rfl
  change Parts live _ off (off.leave live.agenda.started budget)
  unfold leave
  have hoff : off.service.disposed = false := hlive
  rw [hoff]
  exact hparts

end Parts

/-! ## A disposal among others -/

/-- A disposal under way. Whatever is on the agenda of it knows its stage. -/
structure Draining (live c : Live) : Prop where
  steady : c.Steady (some live.agenda.started)
  shut : c.scheduler.disposed = true
  began : live.agenda.started < c.agenda.started
  stage {job dropped task errand} : c.agenda.Has job dropped (.body task errand) →
    Stage live c errand

theorem stage_of_isRefresh (live c : Live) {errand : Errand} (h : errand.isRefresh = true) :
    Stage live c errand := by
  cases errand with
  | leave | drain | flushing => cases h
  | _ => trivial

theorem Stage.calm {live c c' : Live} {errand : Errand} (h : Stage live c errand)
    (hbegan : live.agenda.started < c.agenda.started) (hcalm : Calm c c') :
    Stage live c' errand := by
  cases errand with
  | leave => exact h
  | drain todo deadline => exact Covers.calm h hbegan hcalm
  | flushing => exact fun job hheld => hcalm.stays_over (h job hheld)
  | _ => trivial

theorem Draining.calm {live c c' : Live} (h : Draining live c)
    (hsteady : c'.Steady (some live.agenda.started)) (hcalm : Calm c c')
    (hplain : ∀ {job dropped work}, c'.agenda.Has job dropped work →
      c.agenda.Has job dropped work ∨ work.IsPlain) : Draining live c' where
  steady := hsteady
  shut := hcalm.disposed.trans h.shut
  began := h.began.trans_le hcalm.started
  stage hhas := by
    rcases hplain hhas with hhas | hplain
    · exact (h.stage hhas).calm h.began hcalm
    · exact stage_of_isRefresh live c' hplain

theorem Draining.of_same {live c c' : Live} (h : Draining live c) (hsame : SameJobs c c')
    (hendings : c'.state.endings = c.state.endings) : Draining live c' :=
  h.calm (h.steady.of_same hsame hendings) (.of_same hsame) fun hhas => .inl (hsame.has.mp hhas)

/-- The disposal waits again: what it knows does not depend on its own job. -/
theorem Stage.suspend {live c : Live} {errand : Errand} (h : Stage live c errand)
    (hknown : ∀ {job}, live.Holds job → job < live.agenda.started) (due : Due)
    (work : Work Errand) :
    Stage live { c with agenda := c.agenda.suspend live.agenda.started due work } errand := by
  have hover {job : Nat} (hheld : live.Holds job) (hover : Over c job) :
      Over ({ c with agenda := c.agenda.suspend live.agenda.started due work } : Live) job := by
    refine ⟨hover.1, Agenda.isOver_iff.mpr fun dropped other hhas => ?_⟩
    rcases Agenda.has_suspend.mp hhas with hhas | ⟨rfl, -⟩
    · exact Agenda.isOver_iff.mp hover.2 _ _ hhas
    · exact lt_irrefl _ (hknown hheld)
  cases errand with
  | leave => exact h
  | drain todo deadline =>
    refine ⟨fun hheld => ?_, fun hawait => Covers.known h (hawait.of_scheduler rfl)⟩
    exact (Covers.covered h hheld).imp (hover hheld) fun hawait => hawait.of_scheduler rfl
  | flushing => exact fun job hheld => hover hheld (h job hheld)
  | _ => trivial

/-- What a turn of the disposal has done: it goes on, or it has answered; an answer that the time is
up comes with nothing dropped. -/
theorem draining_leaveTurn {live c : Live} (h : Orderly live)
    (hsteady : c.Steady (some live.agenda.started)) {errand : Errand}
    (haway : Away c live.agenda.started (.body none errand)) {stuck : Option Nat}
    {acted : Live × Rest} (hparts : Parts live stuck c acted) :
    let after : Live := leaveTurn live.agenda.started acted
    Draining live after ∧
      (after.state.endings = c.state.endings ∨
        ∃ answer, after.state.endings = c.state.endings ++ [(live.agenda.started, answer)] ∧
          (∀ {job dropped work}, after.agenda.Has job dropped work → work.IsPlain) ∧
          (answer = .error .timedOut →
            (∀ job dropped work, c.agenda.Has job dropped work →
              after.agenda.Has job dropped work) ∧ Leftover live stuck after)) := by
  have hplain {job : Nat} {dropped : Bool} {work : Work Errand}
      (hhas : c.agenda.Has job dropped work) : work.IsPlain :=
    (hsteady.plain hhas).resolve_right fun hdisposal =>
      haway.off (Option.some.inj hdisposal.1 ▸ hhas)
  cases hparts with
  | @waits acted next due htends hstarted hshut hendings hstage =>
    have hold {job : Nat} {dropped : Bool} {work : Work Errand}
        (hhas : acted.agenda.Has job dropped work) : work.IsPlain :=
      hplain (htends.has_of_started hstarted hhas)
    have hacted := hsteady.of_tends htends (fun hhas => .inr (hold hhas))
      fun hmem => .inl (hendings ▸ hmem)
    have hsuspended := hacted.orderly.suspend (htends.away haway)
      (rfl : (Work.body none next).runOf? = none) due
    refine ⟨⟨⟨hsuspended, fun hhas => ?_, hacted.bodies, hacted.recorded⟩, hshut,
      haway.known.trans_le htends.started, fun hhas => ?_⟩, .inl hendings⟩
    · rcases Agenda.has_suspend.mp hhas with hhas | ⟨rfl, -, rfl⟩
      · exact .inl (hold hhas)
      · exact .inr ⟨rfl, rfl⟩
    · rcases Agenda.has_suspend.mp hhas with hhas | ⟨-, -, heq⟩
      · exact stage_of_isRefresh live _ (hold hhas)
      · cases heq
        exact hstage.suspend h.lt_of_holds due _
  | @ends acted answer htends hstarted hshut hendings hanswer =>
    have hclosed : SameJobs acted (close acted live.agenda.started) :=
      ⟨rfl, rfl, Agenda.has_finish⟩
    have hold {job : Nat} {dropped : Bool} {work : Work Errand}
        (hhas : (close acted live.agenda.started).agenda.Has job dropped work) : work.IsPlain :=
      hplain (htends.has_of_started hstarted (hclosed.has.mp hhas))
    have hafter := hsteady.of_tends (htends.trans (.of_same hclosed))
      (fun hhas => .inr (hold hhas)) fun hmem => by
        rcases List.mem_append.mp (hendings ▸ hmem) with hmem | hmem
        · exact .inl hmem
        · cases List.mem_singleton.mp hmem
          exact .inr (haway.known.trans_le htends.started)
    refine ⟨⟨hafter, hshut, haway.known.trans_le htends.started, fun hhas =>
      stage_of_isRefresh live _ (hold hhas)⟩,
      .inr ⟨answer, hendings, hold, fun htimedOut => ⟨?_, ?_⟩⟩⟩
    · exact fun job dropped work hhas => hclosed.has.mpr (htends.stays hhas)
    · exact (hanswer htimedOut).of_same hclosed

/-! ## The answer -/

/-- The states in which a disposal gets its turns, each with its errand: at first that it leaves,
and then, after whatever others do in between, that of its last wait. -/
inductive Leaving (live : Live) (budget : Nat) : Live → Errand → Prop where
  | first : Leaving live budget { live with agenda := live.agenda.reserve.2 } (.leave budget)
  | later {c : Live} {entry : JobEntry (Work Errand)} {errand : Errand} :
      Course act (runNow act live (.leave budget)).2 c → entry ∈ c.agenda.entries →
        entry.due = .turn → entry.job = live.agenda.started → entry.work = .body none errand →
          Leaving live budget (c.without entry.job) errand

/-- The disposal gave up in one of its turns before, and dropped nothing in it. -/
def GaveUp (live : Live) (budget : Nat) (last : Live) : Prop :=
  ∃ c errand, live.Leaving budget c errand ∧
    let after : Live :=
      Clockwork.turn act c ⟨live.agenda.started, .turn, false, .body none errand⟩
    c.ending? live.agenda.started = none ∧
    after.ending? live.agenda.started = some (.error .timedOut) ∧
    Course act after last ∧
    (∀ job dropped work, c.agenda.Has job dropped work → after.agenda.Has job dropped work) ∧
    (∀ job dropped work, after.agenda.Has job dropped work → dropped = false) ∧
    Leftover live (c.stuckOn? errand) after

/-- The disposal has no answer yet, or it is gone and has an answer that is told of above. -/
def Answers (live : Live) (budget : Nat) (c : Live) : Prop :=
  c.ending? live.agenda.started = none ∨
    (∀ {job dropped work}, c.agenda.Has job dropped work → work.IsPlain) ∧
      ∃ answer, c.ending? live.agenda.started = some answer ∧
        (answer = .error .timedOut → GaveUp live budget c)

theorem Answers.step {live c c' : Live} {budget : Nat} (h : Answers live budget c)
    (hstep : Clockwork.Step act c c') (hendings : c'.state.endings = c.state.endings)
    (hplain : ∀ {job dropped work}, c'.agenda.Has job dropped work →
      c.agenda.Has job dropped work ∨ work.IsPlain) : Answers live budget c' := by
  unfold Answers ending?
  rw [hendings]
  refine h.imp_right fun ⟨hgone, answer, hanswer, htimedOut⟩ =>
    ⟨fun hhas => (hplain hhas).elim hgone id, answer, hanswer, fun heq => ?_⟩
  obtain ⟨before, errand, hleaving, hnone, hsome, hcourse, hrest⟩ := htimedOut heq
  exact ⟨before, errand, hleaving, hnone, hsome, hcourse.tail hstep, hrest⟩

theorem answers_turn {live c : Live} (h : Orderly live) {budget : Nat} {errand : Errand}
    (hleaving : live.Leaving budget c errand) (hsteady : c.Steady (some live.agenda.started))
    (haway : Away c live.agenda.started (.body none errand))
    (hparts : Parts live (c.stuckOn? errand) c (act live.agenda.started errand c))
    (hnone : c.ending? live.agenda.started = none) (due : Due) :
    let after : Live :=
      Clockwork.turn act c ⟨live.agenda.started, due, false, .body none errand⟩
    Draining live after ∧ Answers live budget after := by
  have hturn := turn_body act c live.agenda.started .turn errand
  rw [turn_body]
  obtain ⟨hdraining, hendings⟩ := draining_leaveTurn h hsteady haway hparts
  refine ⟨hdraining, ?_⟩
  generalize leaveTurn live.agenda.started (act live.agenda.started errand c) = after
    at hturn hdraining hendings ⊢
  rcases hendings with hendings | ⟨answer, hendings, hgone, htimedOut⟩
  · left
    unfold ending?
    rw [hendings]
    exact hnone
  · right
    have hsome : ending? after live.agenda.started = some answer := by
      unfold ending? at hnone ⊢
      rw [hendings, List.lookup_append, hnone]
      simp
    refine ⟨hgone, answer, hsome, fun heq => ?_⟩
    obtain ⟨hstays, hleft⟩ := htimedOut heq
    refine ⟨c, errand, hleaving, ?_⟩
    rw [hturn]
    exact ⟨hnone, heq ▸ hsome, .refl, hstays,
      fun _ _ _ hhas => hdraining.steady.orderly.undropped hhas, hleft⟩

theorem answers_runNow {live : Live} (h : live.Steady none)
    (hlive : live.service.disposed = false) (budget : Nat) :
    let left : Live := (runNow act live (.leave budget)).2
    Draining live left ∧ Answers live budget left := by
  let off : Live := { live with agenda := live.agenda.reserve.2 }
  have hsteady : off.Steady (some live.agenda.started) := by
    have hoff : off.Steady none := h.of_tends (Tends.reserve live) .inl .inl
    exact ⟨hoff.orderly, fun hhas => .inl ((hoff.plain hhas).resolve_right
      fun hdisposal => nomatch hdisposal.1), hoff.bodies, hoff.recorded⟩
  have haway : Away off live.agenda.started (.body none (.leave budget)) := {
    off := fun hhas => lt_irrefl _ (h.orderly.known hhas)
    known := Nat.lt_succ_self _
    guarded := fun hrun => nomatch hrun
    alone := fun hrun => nomatch hrun
    latest := fun ht hrun => absurd (h.orderly.run ht hrun) (lt_irrefl _) }
  have hnone : off.ending? live.agenda.started = none := by
    refine List.lookup_eq_none_iff.mpr fun ending hmem => ?_
    simpa using Nat.ne_of_gt (h.recorded hmem)
  exact answers_turn h.orderly .first hsteady haway (parts_leave h.orderly hlive budget) hnone .turn

/-- A later turn of the disposal: it was waiting, so that it has no answer yet. -/
theorem answers_later_turn {live : Live} (h : Orderly live) {budget : Nat} {c : Live}
    (hcourse : Course act (runNow act live (.leave budget)).2 c)
    (hdraining : Draining live c) (hanswers : Answers live budget c)
    {entry : JobEntry (Work Errand)} (hentry : entry ∈ c.agenda.entries)
    (hready : entry.due = .turn) (hplain : ¬ entry.work.IsPlain) :
    let after : Live := Clockwork.turn act (c.without entry.job) entry
    Draining live after ∧ Answers live budget after := by
  have hhas := Agenda.Has.of_mem hentry
  have horderly := hdraining.steady.orderly
  obtain ⟨hdisposal, hrun⟩ := (hdraining.steady.plain hhas).resolve_left hplain
  have hjob : entry.job = live.agenda.started := (Option.some.inj hdisposal).symm
  have hnone : c.ending? live.agenda.started = none :=
    hanswers.resolve_right fun hanswered => hplain (hanswered.1 hhas)
  have hundropped := horderly.undropped hhas
  have haway := horderly.away hhas
  have hsteady : Steady (some live.agenda.started) (c.without entry.job) :=
    ⟨horderly.without entry.job, fun hhas => hdraining.steady.plain (Agenda.has_without.mp hhas).1,
      hdraining.steady.bodies, hdraining.steady.recorded⟩
  obtain ⟨job, due, dropped, work⟩ := entry
  cases work with
  | rest => exact absurd trivial hplain
  | tick => exact absurd trivial hplain
  | body task errand =>
    cases hrun
    cases hundropped
    change job = live.agenda.started at hjob
    subst hjob
    have hstage := (hdraining.stage hhas).calm hdraining.began (.without c live.agenda.started)
    have hparts := parts_act (c := c.without live.agenda.started) hdraining.shut hstage
      (Bool.eq_false_iff.mpr hplain)
    exact answers_turn h (.later hcourse hentry hready rfl rfl) hsteady haway hparts hnone due

theorem answers_step {live : Live} (h : Orderly live) {budget : Nat} {c c' : Live}
    (hcourse : Course act (runNow act live (.leave budget)).2 c)
    (hdraining : Draining live c) (hanswers : Answers live budget c)
    (hstep : Clockwork.Step act c c') : Draining live c' ∧ Answers live budget c' := by
  cases hstep with
  | disk =>
    have hsame : SameJobs c { c with agenda := c.agenda.answerDisk } :=
      ⟨rfl, rfl, Agenda.has_answerDisk⟩
    exact ⟨hdraining.of_same hsame rfl,
      hanswers.step (.disk c) rfl fun hhas => .inl (hsame.has.mp hhas)⟩
  | clock time =>
    have hsame : SameJobs c { c with agenda := c.agenda.moveTo time } :=
      ⟨rfl, rfl, Agenda.has_moveTo⟩
    exact ⟨hdraining.of_same hsame rfl,
      hanswers.step (.clock c time) rfl fun hhas => .inl (hsame.has.mp hhas)⟩
  | @turn entry hentry hready =>
    by_cases hplain : entry.work.IsPlain
    · obtain ⟨hsteady, hcalm, hendings, hkeeps⟩ := hdraining.steady.turn hentry hplain
      exact ⟨hdraining.calm hsteady hcalm hkeeps,
        hanswers.step (.turn hentry hready) hendings hkeeps⟩
    · exact answers_later_turn h hcourse hdraining hanswers hentry hready hplain

theorem answers_course {live : Live} (h : live.Steady none)
    (hlive : live.service.disposed = false) {budget : Nat} {last : Live}
    (hcourse : Course act (runNow act live (.leave budget)).2 last) :
    Draining live last ∧ Answers live budget last := by
  induction hcourse with
  | refl => exact answers_runNow h hlive budget
  | tail hcourse hstep ih => exact answers_step h.orderly hcourse ih.1 ih.2 hstep

theorem course_disposeWithin (live : Live) (budget : Nat) :
    Course act (runNow act live (.leave budget)).2 (live.disposeWithin budget).2 := by
  have hawait := course_await act
    (fun c : Live => (ending? c (runNow act live (.leave budget)).1).isSome)
    (runNow act live (.leave budget)).2
  exact hawait

theorem ending?_disposeWithin (live : Live) (budget : Nat) :
    (live.disposeWithin budget).2.ending? live.agenda.started = (live.disposeWithin budget).1 :=
  rfl

/-- A disposal that has answered that its time was up dropped nothing, at whichever wait this was
and whatever others did before. In the turn in which it gave up, every other job on the agenda
stayed as it was, and none of them was dropped. If its drain was stuck on a job, this job was left
running: one that the scheduler had held when the disposal began, or a run that had begun since.
Otherwise, as at the flush of a channel, all that the scheduler had held was over by itself. -/
theorem timed_out_disposal_drops_nothing (service : Service) (requests : List Request)
    (hlive : ((create service).after requests).service.disposed = false) (budget : Nat)
    {last : Live}
    (hcourse : Course act (runNow act ((create service).after requests) (.leave budget)).2 last)
    (hanswer : last.ending? ((create service).after requests).agenda.started =
      some (.error .timedOut)) :
    let live := (create service).after requests
    let disposal := live.agenda.started
    ∃ c errand, live.Leaving budget c errand ∧
      let after : Live := Clockwork.turn act c ⟨disposal, .turn, false, .body none errand⟩
      c.ending? disposal = none ∧ after.ending? disposal = some (.error .timedOut) ∧
      Course act after last ∧
      (∀ job dropped work, c.agenda.Has job dropped work → after.agenda.Has job dropped work) ∧
      (∀ job dropped work, after.agenda.Has job dropped work → dropped = false) ∧
      (∀ job, c.stuckOn? errand = some job →
        after.agenda.isOver job = false ∧ (live.Holds job ∨ disposal < job)) ∧
      (c.stuckOn? errand = none → ∀ job, live.Holds job → after.agenda.isOver job = true) ∧
      (errand.isFlush = true → ∀ job, live.Holds job → after.agenda.isOver job = true) := by
  intro live disposal
  have hsteady : live.Steady none := steady_after (steady_create service) requests hlive
  rcases (answers_course hsteady hlive hcourse).2 with hnone | ⟨-, answer, hsome, htimedOut⟩
  · cases hnone.symm.trans hanswer
  · obtain ⟨c, errand, hleaving, hnone, hgaveUp, hcourse, hstays, hundropped, hleft⟩ :=
      htimedOut (Option.some.inj (hsome.symm.trans hanswer))
    have hover (hstuck : c.stuckOn? errand = none) : Leftover live none _ := hstuck ▸ hleft
    have hflush (hflushes : errand.isFlush = true) : c.stuckOn? errand = none := by
      cases errand with
      | flushing => rfl
      | _ => cases hflushes
    refine ⟨c, errand, hleaving, hnone, hgaveUp, hcourse, hstays, hundropped,
      fun job hstuck => ?_, hover, fun hflushes => hover (hflush hflushes)⟩
    have hrunning : Leftover live (some job) _ := hstuck ▸ hleft
    exact hrunning

end Live

namespace Sample

def requested : Live :=
  (Live.create (scripted none [.ok second])).after [.refreshLater]

def waiting : Service :=
  { scripted none [.ok second] with source := some (.script 100 [.ok second] []) }

def delayed : Live :=
  (Live.create waiting).after [.refreshLater]

end Sample

/-- A refresh that a disposal without any time leaves on the agenda ends as if nothing had happened:
its manifest is in force soon after. -/
theorem refresh_outlives_disposal :
    Sample.requested.service.disposed = false ∧ Sample.requested.Holds 0 ∧
      (Sample.requested.disposeWithin 0).1 = some (.error .timedOut) ∧
      (∃ work, (Sample.requested.disposeWithin 0).2.agenda.Has 0 false work) ∧
      (Sample.requested.disposeWithin 0).2.service.manifest.version = some "bundled" ∧
      ((Sample.requested.disposeWithin 0).2.advance 10).service.manifest.version = some "2" :=
  ⟨rfl, .inl (by decide +kernel), rfl, ⟨.body none (.ask true), .turn, .head _⟩,
    by decide +kernel, by decide +kernel⟩

/-- A refresh whose source answers after the time is up is left running. -/
theorem slow_refresh_is_not_dropped :
    Sample.delayed.service.disposed = false ∧ Sample.delayed.Holds 0 ∧
      (Sample.delayed.disposeWithin 50).1 = some (.error .timedOut) ∧
      (Sample.delayed.disposeWithin 50).2.agenda.isOver 0 = false ∧
      ∃ c errand, Sample.delayed.Leaving 50 c errand ∧
        ∀ job dropped work,
          (Clockwork.turn Live.act c ⟨Sample.delayed.agenda.started, .turn, false,
            .body none errand⟩).agenda.Has job dropped work → dropped = false := by
  have hlive : Sample.delayed.service.disposed = false := rfl
  have hheld : Sample.delayed.Holds 0 := .inl (by decide +kernel)
  have hanswer : (Sample.delayed.disposeWithin 50).1 = some (.error .timedOut) := rfl
  obtain ⟨c, errand, hleaving, -, -, -, -, hundropped, -⟩ :=
    Live.timed_out_disposal_drops_nothing (Sample.waiting) [.refreshLater] hlive 50
      (Live.course_disposeWithin Sample.delayed 50)
      ((Live.ending?_disposeWithin Sample.delayed 50).trans hanswer)
  exact ⟨hlive, hheld, hanswer, by decide +kernel, c, errand, hleaving, hundropped⟩

end EventGate
