import EventGate.Proofs.Dropping
import EventGate.Proofs.StageOrder

/-! # The rate limit over a run

Within one window the limit counts the events that get to it, other than those that rules exempt.
How many it has counted decides alone whether an event passes, under the threshold of the manifest
that the event is bound to.
-/

namespace EventGate

open Stage

def Manifest.decisionOn (manifest : Manifest) (event : Event) : ThrottlingDecision :=
  ((manifest.actions.filter fun action => action.applies event).filterMap fun action =>
    action.effect.throttlingDecision?).getLast?.getD .unset

theorem ManifestStage.decision_select (actions : List Action) (event : Event)
    (given : ThrottlingDecision) :
    decision (Guarded.select Effect.throttlingDecision? actions) event given =
      ((actions.filter fun action => action.applies event).filterMap fun action =>
        action.effect.throttlingDecision?).getLast?.getD given := by
  induction actions generalizing given with
  | nil => rfl
  | cons action rest ih =>
    have hselect : Guarded.select Effect.throttlingDecision? (action :: rest) =
        ((action.effect.throttlingDecision?.map fun payload =>
          (⟨action.condition, payload⟩ : Guarded ThrottlingDecision)).toList) ++
          Guarded.select Effect.throttlingDecision? rest := by
      rw [Guarded.select, List.filterMap_cons]
      cases action.effect.throttlingDecision? <;> rfl
    have happlies (payload : ThrottlingDecision) :
        (⟨action.condition, payload⟩ : Guarded ThrottlingDecision).applies event =
          action.applies event := rfl
    unfold decision at ih ⊢
    rw [hselect, List.foldl_append, ih, List.filter_cons]
    cases hpick : action.effect.throttlingDecision? with
    | none => cases action.applies event <;> simp [hpick]
    | some payload =>
      cases hevent : action.applies event <;>
        simp [hpick, happlies, hevent, List.getLast?_cons]

namespace Stage

variable {σ : Type}

theorem ran_append_of_not_dropped {around : Surroundings} {first second : List (Stage σ)}
    {pass : Pass σ} (hs : ∀ s ∈ first, s.Sound)
    (hend : (runAll around first pass).context.dropped = false) :
    ran around (first ++ second) pass = first ++ ran around second (runAll around first pass) := by
  induction first generalizing pass with
  | nil => rfl
  | cons stage rest ih =>
    have hrest : ∀ s ∈ rest, s.Sound := fun s hm => hs s (List.mem_cons_of_mem stage hm)
    have hrun := (hs stage List.mem_cons_self).run_eq around pass
    rw [runAll_cons hs] at hend ⊢
    cases hd : (stage.effect around pass).context.dropped with
    | false => simp [ran, hrun, hd, ih hrest hend]
    | true =>
      rw [runAll_of_dropped hrest hd, hd] at hend
      exact absurd hend (by decide)

/-- If there are stages of a place and none before it, an event meets one of them. -/
theorem Ordered.any_ran {stages : List (Stage σ)} (h : Ordered stages) {place : Priority}
    (hlow : ∀ s ∈ stages, place.value ≤ s.priority.value)
    (hstage : ∃ s ∈ stages, s.priority = place) (around : Surroundings) (pass : Pass σ) :
    (ran around stages pass).any (isAt place) = true := by
  obtain ⟨stage, hmem, hplace⟩ := hstage
  cases stages with
  | nil => exact absurd hmem List.not_mem_nil
  | cons first rest =>
    have hle : first.priority.value ≤ place.value := by
      rcases List.mem_cons.mp hmem with rfl | hrest
      · exact Nat.le_of_eq (congrArg Priority.value hplace)
      · have hbefore := (before_iff first stage).1 (List.rel_of_pairwise_cons h hrest)
        rwa [hplace] at hbefore
    have hfirst : first.priority = place :=
      Priority.value_injective (Nat.le_antisymm hle (hlow first List.mem_cons_self))
    unfold ran
    split <;> simp [isAt, hfirst]

end Stage

def Call.IsInWindow {κ : Type} (call : Call κ) (window : RateWindow) : Prop :=
  call.now - window.started < 1000 * call.manifest.throttling.windowSeconds

namespace Step

variable {κ : Type}

def reaches {σ : Type} (s : Step σ κ) (place : Priority) : Bool :=
  s.executed.any (isAt place)

/-- The event of a call as the rules on throttling see it. -/
def stamped {σ : Type} (s : Step σ κ) : Event :=
  Processor.stamp s.call.session (s.processor.sequence + 1) s.call.event

def decision {σ : Type} (s : Step σ κ) : ThrottlingDecision :=
  (s.passBefore .generalThrottling).context.throttling

def isExempt {σ : Type} (s : Step σ κ) : Bool :=
  s.reaches .generalThrottling && decide (s.decision = .doNotThrottle)

/-- The event gets to the rate limit, and no rule exempts it. -/
def isCounted {σ : Type} (s : Step σ κ) : Bool :=
  s.reaches .generalThrottling && !decide (s.decision = .doNotThrottle)

section

variable {s : Step HostState κ} (hhost : s.serving.host = HostStage.standard)

include hhost

/-! ## One call -/

theorem reaches_eq {place : Priority}
    (hplace : ∃ stage ∈ s.serving.stages s.call.manifest, stage.priority = place) :
    s.reaches place = !(s.passBefore place).context.dropped := by
  have hordered := Processor.ordered_stages hhost s.call.manifest
  have hsound : ∀ stage ∈ (s.serving.stages s.call.manifest).filter
      (fun stage => decide (stage.priority.value < place.value)), stage.Sound :=
    fun stage hstage => Processor.sound_stages hhost _ (List.mem_filter.mp hstage).1
  rw [reaches, executed, executed_eq_ran, hordered.eq_below_append place.value]
  cases hd : (s.passBefore place).context.dropped with
  | true =>
    rw [ran_append_of_dropped hsound rfl hd, Bool.not_true, List.any_eq_false]
    intro stage hstage hat
    have hlow := (List.mem_filter.mp ((ran_sublist _ _ _).subset hstage)).2
    rw [isAt, decide_eq_true_iff] at hat
    simp [hat] at hlow
  | false =>
    rw [ran_append_of_not_dropped hsound hd, List.any_append]
    have hhigh := hordered.filter fun stage => decide (place.value ≤ stage.priority.value)
    rw [hhigh.any_ran, Bool.or_true, Bool.not_false]
    · exact fun stage hstage => of_decide_eq_true (List.mem_filter.mp hstage).2
    · obtain ⟨stage, hmem, hstage⟩ := hplace
      exact ⟨stage, List.mem_filter.mpr ⟨hmem, by simp [hstage]⟩, hstage⟩

theorem reaches_limit_eq :
    s.reaches .generalThrottling = !(s.passBefore .generalThrottling).context.dropped := by
  refine reaches_eq hhost ⟨HostStage.throttling, ?_, rfl⟩
  rw [Processor.stages, hhost, mem_merge]
  exact .inl (by simp [HostStage.standard])

theorem isExempt_eq :
    s.isExempt = (!(s.passBefore .generalThrottling).context.dropped &&
      decide ((s.passBefore .generalThrottling).context.throttling = .doNotThrottle)) := by
  rw [isExempt, reaches_limit_eq hhost, decision]

theorem isCounted_eq :
    s.isCounted = !((s.passBefore .generalThrottling).context.dropped ||
      decide ((s.passBefore .generalThrottling).context.throttling = .doNotThrottle)) := by
  rw [isCounted, reaches_limit_eq hhost, decision, Bool.not_or]

/-- An event that gets to the limit brings the decision of the last rule that applies to it. -/
theorem decision_eq (h : s.reaches .generalThrottling = true) :
    s.decision = s.call.manifest.decisionOn s.stamped := by
  have hd : (s.passBefore .generalThrottling).context.dropped = false := by
    rwa [reaches_limit_eq hhost, Bool.not_eq_true'] at h
  have hbefore : (s.passBefore .manifestThrottling).context.dropped = false :=
    Processor.dropped_passBelow hhost _ _ _ (by decide) hd
  have hunset : (s.passBefore .manifestThrottling).context.throttling = .unset :=
    Processor.part_before_place hhost _ _ _ (fun pass => pass.context.throttling)
      .manifestThrottling throttling_effect (Nat.le_refl _)
  have hafter : s.decision = (s.passAfter .manifestThrottling).context.throttling :=
    Processor.part_behind_place hhost _ _ _ (fun pass => pass.context.throttling)
      .manifestThrottling throttling_effect (by decide)
  have hstage : s.passAfter .manifestThrottling = _ :=
    Processor.passAfter_eq hhost s.call.manifest s.call.now s.call.event .manifestThrottling
  have hsame : (s.passBefore .manifestThrottling).event.properties = s.stamped.properties :=
    Processor.properties_passBelow hhost _ _ _ (by decide)
  have heffect := ManifestStage.effect_throttling
    (Guarded.select Effect.throttlingDecision? s.call.manifest.actions)
    (s.serving.surroundings s.call.now) (s.passBefore .manifestThrottling)
  rw [hbefore, if_neg Bool.false_ne_true] at heffect
  rw [hafter, hstage, Manifest.decisionOn]
  refine (congrArg (fun pass => pass.context.throttling) heffect).trans ?_
  simp only [ManifestStage.decision_select, hunset, Action.applies_congr hsame]

theorem window_passBefore :
    (s.passBefore .generalThrottling).state.window = s.processor.state.window :=
  Processor.part_before_place hhost _ _ _ (fun pass => pass.state.window) .generalThrottling
    window_effect (Nat.le_refl _)

theorem manifest_passBefore :
    (s.passBefore .generalThrottling).context.manifest = s.call.manifest :=
  Processor.part_before_place hhost _ _ _ (fun pass => pass.context.manifest) .generalThrottling
    (fun q _ actions around pass => (keeps_effect q actions around pass).manifest) (Nat.le_refl _)

theorem window_next : s.next.state.window = (s.passAfter .generalThrottling).state.window := by
  rw [state_next]
  exact Processor.part_behind_place hhost _ _ _ (fun pass => pass.state.window)
    .generalThrottling window_effect (by decide)

/-- Behind the limit no stage drops an event. -/
theorem flags_outcome :
    s.outcome.dropped = (s.passAfter .generalThrottling).context.dropped ∧
      s.outcome.throttled = ((s.passAfter .generalThrottling).context.dropped &&
        (s.passAfter .generalThrottling).context.throttled) := by
  have hflags := Processor.passBelow_congr hhost s.call.manifest s.call.now s.call.event
    (fun pass => (pass.context.dropped, pass.context.throttled))
    (show Priority.generalThrottling.value + 1 ≤ Priority.manifestRoute.value + 1 by decide)
    fun q hq _ pass => by
      have hdrops : q.drops = false := by
        revert hq
        cases q <;> decide
      have hsame := flags_effect hdrops s.call.manifest.actions
        (s.serving.surroundings s.call.now) pass
      rw [hsame.1, hsame.2]
  have hdropped : (s.passAfter .manifestRoute).context.dropped =
      (s.passAfter .generalThrottling).context.dropped := congrArg Prod.fst hflags
  have hthrottled : (s.passAfter .manifestRoute).context.throttled =
      (s.passAfter .generalThrottling).context.throttled := congrArg Prod.snd hflags
  rw [← hdropped, ← hthrottled, outcome, Processor.process_fst, Processor.dropped_outcome,
    Processor.throttled_outcome]
  exact ⟨rfl, rfl⟩

/-- An event that the limit does not count finds and leaves the same window, and is not
throttled. -/
theorem of_not_counted (h : s.isCounted = false) :
    s.outcome.throttled = false ∧ s.next.state.window = s.processor.state.window ∧
      s.outcome.dropped = (s.passBefore .generalThrottling).context.dropped := by
  have hidle : ((s.passBefore .generalThrottling).context.dropped ||
      decide ((s.passBefore .generalThrottling).context.throttling = .doNotThrottle)) = true := by
    rwa [isCounted_eq hhost, Bool.not_eq_false'] at h
  have hpass : s.passAfter .generalThrottling = s.passBefore .generalThrottling := by
    rw [passAfter_eq hhost, Priority.stage, HostStage.effect_throttling, if_pos hidle]
  have hthrottled : (s.passBefore .generalThrottling).context.throttled = false :=
    Processor.throttled_passBelow hhost _ _ _ (Nat.le_refl _)
  obtain ⟨hdropped, houtcome⟩ := flags_outcome hhost
  rw [window_next hhost, hdropped, houtcome, hpass, hthrottled, window_passBefore hhost]
  simp

/-- Within the window, a counted event is the next one of the window, and is dropped, as
throttled, exactly if it is beyond the threshold. -/
theorem of_counted (h : s.isCounted = true)
    (hclock : s.call.IsInWindow s.processor.state.window) :
    s.next.state.window =
        ⟨s.processor.state.window.started, s.processor.state.window.count + 1⟩ ∧
      (s.outcome.throttled = true ↔
        s.call.manifest.throttling.threshold < s.processor.state.window.count + 1) ∧
      s.outcome.dropped = s.outcome.throttled := by
  have hactive : ((s.passBefore .generalThrottling).context.dropped ||
      decide ((s.passBefore .generalThrottling).context.throttling = .doNotThrottle)) = false := by
    rwa [isCounted_eq hhost, Bool.not_eq_true'] at h
  have hundropped : (s.passBefore .generalThrottling).context.dropped = false :=
    (Bool.or_eq_false_iff.mp hactive).1
  have hcounted : HostStage.counted (s.serving.surroundings s.call.now)
      (s.passBefore .generalThrottling) =
        (decide (s.processor.state.window.count + 1 ≤ s.call.manifest.throttling.threshold),
          ⟨s.processor.state.window.started, s.processor.state.window.count + 1⟩) := by
    rw [HostStage.counted, window_passBefore hhost, manifest_passBefore hhost]
    exact RateWindow.enter_of_lt hclock
  have hpass := passAfter_eq hhost .generalThrottling
  rw [Priority.stage, HostStage.effect_throttling, hcounted, hactive, if_neg Bool.false_ne_true]
    at hpass
  obtain ⟨hdropped, houtcome⟩ := flags_outcome hhost
  refine ⟨by rw [window_next hhost, hpass], ?_⟩
  rw [houtcome, hdropped]
  by_cases hwithin :
      s.processor.state.window.count + 1 ≤ s.call.manifest.throttling.threshold
  · have hkept : (s.passAfter .generalThrottling).context =
        (s.passBefore .generalThrottling).context := by
      rw [hpass]
      exact if_pos (decide_eq_true hwithin)
    rw [hkept, hundropped, Bool.false_and]
    exact ⟨iff_of_false Bool.false_ne_true (Nat.not_lt.mpr hwithin), rfl⟩
  · have hstopped : (s.passAfter .generalThrottling).context =
        (s.passBefore .generalThrottling).context.throttle := by
      rw [hpass]
      exact if_neg fun h => hwithin (of_decide_eq_true h)
    rw [hstopped]
    exact ⟨iff_of_true rfl (Nat.lt_of_not_le hwithin), rfl⟩

theorem window_next_eq (hclock : s.call.IsInWindow s.processor.state.window) :
    s.next.state.window = ⟨s.processor.state.window.started,
      s.processor.state.window.count + if s.isCounted then 1 else 0⟩ := by
  cases h : s.isCounted with
  | true => exact (of_counted hhost h hclock).1
  | false => exact (of_not_counted hhost h).2.1

end

end Step

/-! ## Runs -/

namespace Processor

variable {κ : Type} {p : Processor HostState κ} (hhost : p.host = HostStage.standard)

include hhost

/-- A call within the window leaves one with the same start, so the calls behind it are within that
one too. -/
theorem inWindow_next {call : Call κ} {rest : List (Call κ)}
    (hclock : ∀ other ∈ call :: rest, other.IsInWindow p.state.window) :
    ∀ other ∈ rest, other.IsInWindow (Step.next ⟨p, call⟩).state.window := by
  intro other hother
  rw [Step.window_next_eq (s := ⟨p, call⟩) hhost (hclock call List.mem_cons_self)]
  exact hclock other (List.mem_cons_of_mem call hother)

variable {calls : List (Call κ)} (hclock : ∀ call ∈ calls, call.IsInWindow p.state.window)

include hclock

/-- Every call of a run within the window finds the events counted that came before it. -/
theorem window_of_steps {before later : List (Step HostState κ)} {s : Step HostState κ}
    (hrun : p.steps calls = before ++ s :: later) :
    s.processor.state.window =
      ⟨p.state.window.started, p.state.window.count + before.countP Step.isCounted⟩ := by
  -- On the calls: what the first one adds to the count is added to that of the calls behind it.
  induction calls generalizing p before with
  | nil => exact absurd hrun.symm (List.append_ne_nil_of_right_ne_nil _ (List.cons_ne_nil _ _))
  | cons call rest ih =>
    rw [steps_cons] at hrun
    cases before with
    | nil =>
      obtain ⟨rfl, -⟩ := List.cons.inj hrun
      rfl
    | cons first earlier =>
      obtain ⟨rfl, htail⟩ := List.cons.inj hrun
      have hnext := Step.window_next_eq (s := ⟨p, call⟩) hhost (hclock call List.mem_cons_self)
      have hcount := ih ((Step.host_next _).trans hhost) (inWindow_next hhost hclock) htail
      rw [hcount, hnext, List.countP_cons, Nat.add_assoc, Nat.add_comm (List.countP _ _)]

/-- Under one threshold the events pass that are counted first. -/
theorem filter_passing_eq_take {threshold : Nat}
    (hthreshold : ∀ call ∈ calls, call.manifest.throttling.threshold = threshold) :
    ((p.steps calls).filter Step.isCounted).filter (fun s => !s.outcome.dropped) =
      ((p.steps calls).filter Step.isCounted).take (threshold - p.state.window.count) := by
  induction calls generalizing p with
  | nil => simp
  | cons call rest ih =>
    have hcall := hclock call List.mem_cons_self
    have hnext := Step.window_next_eq (s := ⟨p, call⟩) hhost hcall
    have htail := ih (p := Step.next ⟨p, call⟩) hhost (inWindow_next hhost hclock)
      fun other hother => hthreshold other (List.mem_cons_of_mem call hother)
    rw [steps_cons]
    cases hcounted : (⟨p, call⟩ : Step HostState κ).isCounted with
    | false =>
      rw [hnext, hcounted] at htail
      rw [List.filter_cons_of_neg (by simp [hcounted])]
      exact htail
    | true =>
      obtain ⟨-, hthrottled, hdropped⟩ := Step.of_counted (s := ⟨p, call⟩) hhost hcounted hcall
      rw [hthreshold call List.mem_cons_self, ← hdropped] at hthrottled
      rw [hnext, hcounted, if_pos rfl] at htail
      rw [List.filter_cons_of_pos hcounted]
      by_cases hwithin : threshold < p.state.window.count + 1
      · have hnone : threshold - p.state.window.count = 0 := by omega
        have hnone' : threshold - (p.state.window.count + 1) = 0 := by omega
        rw [List.filter_cons_of_neg (by simpa using hthrottled.mpr hwithin), htail, hnone, hnone',
          List.take_zero, List.take_zero]
      · have hsome : threshold - p.state.window.count =
            threshold - (p.state.window.count + 1) + 1 := by omega
        have hpasses : (Step.outcome ⟨p, call⟩).dropped = false := by
          rw [← Bool.not_eq_true, hthrottled]
          exact hwithin
        rw [List.filter_cons_of_pos (by simp [hpasses]), htail, hsome, List.take_succ_cons]

/-- Over a run within one window: an event that gets to the limit brings the decision of the last
rule that applies to it. Those that are exempt pass, and nothing but the counted ones touches the
window or is throttled. A counted event is throttled exactly if, with those of the window before
it, it is beyond the threshold of its own manifest; under one threshold the first ones pass. -/
theorem throttled_beyond_threshold :
    (∀ s ∈ p.steps calls, s.reaches .generalThrottling = true →
      s.decision = s.call.manifest.decisionOn s.stamped ∧ s.outcome.throttling = s.decision) ∧
    (∀ s ∈ p.steps calls, s.isExempt = true → s.outcome.dropped = false) ∧
    (∀ s ∈ p.steps calls, s.isCounted = false →
      s.outcome.throttled = false ∧ s.next.state.window = s.processor.state.window) ∧
    (∀ before s later, p.steps calls = before ++ s :: later → s.isCounted = true →
      (s.outcome.throttled = true ↔ s.call.manifest.throttling.threshold <
        p.state.window.count + before.countP Step.isCounted + 1) ∧
      s.outcome.dropped = s.outcome.throttled) ∧
    ∀ threshold, (∀ call ∈ calls, call.manifest.throttling.threshold = threshold) →
      ((p.steps calls).filter Step.isCounted).filter (fun s => !s.outcome.dropped) =
        ((p.steps calls).filter Step.isCounted).take (threshold - p.state.window.count) := by
  have hserving : ∀ s ∈ p.steps calls, s.serving.host = HostStage.standard :=
    fun s hs => (host_of_mem_steps hs).trans hhost
  refine ⟨?decision, ?exempt, ?others, ?counted, ?constant⟩
  case decision =>
    intro s hs hreaches
    refine ⟨Step.decision_eq (hserving s hs) hreaches, ?_⟩
    rw [Step.outcome, process_fst, throttling_outcome]
    have hend (bound : Nat) (hbound : Priority.manifestThrottling.value < bound) :
        (s.passBelow bound).context.throttling =
          (s.passAfter .manifestThrottling).context.throttling :=
      part_behind_place (hserving s hs) _ _ _ (fun pass => pass.context.throttling) _
        throttling_effect hbound
    exact (hend _ (by decide)).trans (hend _ (by decide)).symm
  case exempt =>
    intro s hs hexempt
    have hnot : s.isCounted = false := by
      rw [Step.isExempt, Bool.and_eq_true] at hexempt
      rw [Step.isCounted, hexempt.2, Bool.not_true, Bool.and_false]
    have hreaches := (Bool.and_eq_true_iff.mp hexempt).1
    rw [Step.reaches_limit_eq (hserving s hs), Bool.not_eq_true'] at hreaches
    rw [(Step.of_not_counted (hserving s hs) hnot).2.2, hreaches]
  case others =>
    intro s hs hnot
    obtain ⟨hthrottled, hwindow, -⟩ := Step.of_not_counted (hserving s hs) hnot
    exact ⟨hthrottled, hwindow⟩
  case counted =>
    intro before s later hrun hcounted
    have hs : s ∈ p.steps calls := hrun ▸ List.mem_append_right before List.mem_cons_self
    have hwindow := window_of_steps hhost hclock hrun
    have hcall : s.call.IsInWindow s.processor.state.window := by
      rw [hwindow]
      exact hclock s.call (call_mem_of_mem_steps hs)
    obtain ⟨-, hthrottled, hdropped⟩ := Step.of_counted (hserving s hs) hcounted hcall
    rw [hwindow] at hthrottled
    exact ⟨hthrottled, hdropped⟩
  case constant =>
    intro threshold hthreshold
    exact filter_passing_eq_take hhost hclock hthreshold

end Processor

namespace Sample

def urgent : Event :=
  pageView.put "Urgent" (.flag true)

def strict : Manifest :=
  { Manifest.bundled with
    throttling := ⟨1, 3600⟩
    actions := [⟨none, .throttle true⟩,
      ⟨some (.property "Urgent" (.present true)), .doNotThrottle true⟩] }

def lenient : Manifest :=
  { strict with throttling := ⟨3, 3600⟩ }

def post (now : Nat) (manifest : Manifest) (event : Event) : Call Nat :=
  ⟨.create "s", registry, manifest, now, event⟩

end Sample

/-- The second page view is one too many, though not the third one under a new manifest. -/
theorem page_views_beyond_strict_limit :
    let p := Processor.standard (.create "s") Sample.registry 0
    let first : Step HostState Nat := ⟨p, Sample.post 10 Sample.strict Sample.pageView⟩
    let second : Step HostState Nat := ⟨first.next, Sample.post 20 Sample.strict Sample.urgent⟩
    let third : Step HostState Nat := ⟨second.next, Sample.post 30 Sample.strict Sample.pageView⟩
    let fourth : Step HostState Nat :=
      ⟨third.next, Sample.post 40 Sample.lenient Sample.pageView⟩
    let calls := [first.call, second.call, third.call, fourth.call]
    p.host = HostStage.standard ∧ (∀ call ∈ calls, call.IsInWindow p.state.window) ∧
      second.isExempt = true ∧ second.outcome.dropped = false ∧
      third.isCounted = true ∧ third.outcome.throttled = true ∧
      fourth.isCounted = true ∧ fourth.outcome.throttled = false := by
  intro p first second third fourth calls
  have hhost : p.host = HostStage.standard := Processor.host_standard _ _ _
  have hway (s : Step HostState Nat) (hs : s.serving.host = HostStage.standard) :
      s.passBefore .generalThrottling = _ := Step.passBelow_eq_foldl hs _
  have hnow : ∀ call ∈ calls, call.now < 1000 * call.manifest.throttling.windowSeconds := by
    simp [calls, first, second, third, fourth, Sample.post, Sample.strict, Sample.lenient]
  have hclock : ∀ call ∈ calls, call.IsInWindow p.state.window :=
    fun call hcall => Nat.lt_of_le_of_lt (Nat.sub_le _ _) (hnow call hcall)
  have hfirst : first.isCounted = true := by
    rw [Step.isCounted_eq (s := first) hhost, hway first hhost]
    decide +kernel
  have hsecond : second.isExempt = true ∧ second.isCounted = false := by
    rw [Step.isExempt_eq (s := second) hhost, Step.isCounted_eq (s := second) hhost,
      hway second hhost]
    decide +kernel
  have hthird : third.isCounted = true := by
    rw [Step.isCounted_eq (s := third) hhost, hway third hhost]
    decide +kernel
  have hfourth : fourth.isCounted = true := by
    rw [Step.isCounted_eq (s := fourth) hhost, hway fourth hhost]
    decide +kernel
  obtain ⟨-, hexempt, -, hcounted, -⟩ := Processor.throttled_beyond_threshold hhost hclock
  have hpasses := hexempt second (List.mem_cons_of_mem _ List.mem_cons_self) hsecond.1
  have hover := (hcounted [first, second] third [fourth] rfl hthird).1
  have hwithin := (hcounted [first, second, third] fourth [] rfl hfourth).1
  have hthrottled : third.outcome.throttled = true := by
    rw [hover]
    simp only [List.countP_cons, List.countP_nil, hfirst, hsecond.2]
    decide
  have hlast : fourth.outcome.throttled = false := by
    rw [← Bool.not_eq_true, hwithin]
    simp only [List.countP_cons, List.countP_nil, hfirst, hsecond.2, hthird]
    decide
  exact ⟨hhost, hclock, hsecond.1, hpasses, hthird, hthrottled, hfourth, hlast⟩

end EventGate
