import EventGate.Proofs.StandardStages

/-! # The way of an event

Where an event stands when the stages of the first places have run. With the standard stages of the
host there is one step for each place, so a fact about a pass is carried from place to place.
-/

namespace EventGate

open Stage

/-! ## One stage for each place -/

namespace Priority

def stage (actions : List Action) : Priority → Stage HostState
  | manifestExclude => ManifestStage.exclude (Guarded.select Effect.excludedChannels? actions)
  | customOptOut => HostStage.customOptOut
  | manifestOptOut => ManifestStage.optOut (Manifest.optOutRules actions)
  | manifestThrottling =>
    ManifestStage.throttling (Guarded.select Effect.throttlingDecision? actions)
  | manifestPersonal => ManifestStage.markPersonal (Guarded.select Effect.personalNames? actions)
  | metric => HostStage.metric
  | setting => HostStage.setting
  | personal => HostStage.personal
  | restriction => HostStage.restriction
  | structured => HostStage.structured
  | suppressEmpty => HostStage.suppressEmpty
  | generalThrottling => HostStage.throttling
  | manifestRoute => ManifestStage.route (Guarded.select Effect.routeTargets? actions)

theorem sound_stage (actions : List Action) (place : Priority) : Sound (place.stage actions) := by
  cases place with
  | manifestExclude => exact ManifestStage.sound_exclude _
  | customOptOut => exact HostStage.sound_customOptOut
  | manifestOptOut => exact ManifestStage.sound_optOut _
  | manifestThrottling => exact ManifestStage.sound_throttling _
  | manifestPersonal => exact ManifestStage.sound_markPersonal _
  | metric => exact HostStage.sound_metric
  | setting => exact HostStage.sound_setting
  | personal => exact HostStage.sound_personal
  | restriction => exact HostStage.sound_restriction
  | structured => exact HostStage.sound_structured
  | suppressEmpty => exact HostStage.sound_suppressEmpty
  | generalThrottling => exact HostStage.sound_throttling
  | manifestRoute => exact ManifestStage.sound_route _

end Priority

/-! ## The stages of a manifest and of the host -/

namespace Manifest

variable {σ α : Type}

theorem stageFor_sublist (pick : Effect → Option α) (stage : List (Guarded α) → Stage σ)
    (actions : List Action) :
    (stageFor pick stage actions).Sublist [stage (Guarded.select pick actions)] := by
  dsimp only [stageFor]
  split
  · exact List.nil_sublist _
  · exact List.Sublist.refl _

theorem mem_stageFor {pick : Effect → Option α} {stage : List (Guarded α) → Stage σ}
    {actions : List Action} {s : Stage σ} (hs : s ∈ stageFor pick stage actions) :
    s = stage (Guarded.select pick actions) :=
  List.mem_singleton.mp ((stageFor_sublist pick stage actions).subset hs)

theorem filter_stageFor (pick : Effect → Option α) (stage : List (Guarded α) → Stage σ)
    (own : Priority) (hown : ∀ rules, (stage rules).priority = own) (actions : List Action)
    (place : Priority) :
    (stageFor pick stage actions).filter (isAt place) =
      if own = place then stageFor pick stage actions else [] := by
  split
  next h =>
    refine List.filter_eq_self.mpr fun s hs => ?_
    rw [mem_stageFor hs, isAt, hown, decide_eq_true h]
  next h =>
    refine List.filter_eq_nil_iff.mpr fun s hs => ?_
    rw [mem_stageFor hs, isAt, hown, decide_eq_false h]
    exact Bool.false_ne_true

/-- A stage that does nothing without rules need not be there without rules. -/
theorem runAll_stageFor {pick : Effect → Option α} {stage : List (Guarded α) → Stage σ}
    {around : Surroundings} (hs : ∀ rules, Sound (stage rules))
    (hnil : ∀ pass, (stage []).effect around pass = pass) (actions : List Action)
    (pass : Pass σ) :
    runAll around (stageFor pick stage actions) pass =
      (stage (Guarded.select pick actions)).effect around pass := by
  unfold stageFor
  cases hr : Guarded.select pick actions with
  | nil => exact (hnil pass).symm
  | cons rule rest =>
    exact runAll_cons (fun s hm => by rw [List.mem_singleton.mp hm]; exact hs _) pass

theorem ordered_compile (actions : List Action) : Ordered (compile actions : List (Stage σ)) :=
  ordered_sort (gathered actions)

theorem sound_of_mem_compile {actions : List Action} {s : Stage σ} (hs : s ∈ compile actions) :
    Sound s := by
  rw [compile, mem_sort] at hs
  simp only [gathered, List.mem_append, List.mem_singleton] at hs
  rcases hs with (((rfl | hs) | hs) | hs) | hs
  · exact ManifestStage.sound_optOut _
  · rw [mem_stageFor hs]
    exact ManifestStage.sound_exclude _
  · rw [mem_stageFor hs]
    exact ManifestStage.sound_throttling _
  · rw [mem_stageFor hs]
    exact ManifestStage.sound_markPersonal _
  · rw [mem_stageFor hs]
    exact ManifestStage.sound_route _

end Manifest

theorem HostStage.ordered_standard : Ordered HostStage.standard := by
  simp [Ordered, before, standard, customOptOut, metric, setting, personal, restriction,
    structured, suppressEmpty, throttling, stateless, Priority.value]

theorem HostStage.sound_of_mem_standard {s : Stage HostState} (hs : s ∈ HostStage.standard) :
    Sound s := by
  simp only [standard, List.mem_cons, List.not_mem_nil, or_false] at hs
  rcases hs with rfl | rfl | rfl | rfl | rfl | rfl | rfl | rfl
  · exact sound_customOptOut
  · exact sound_metric
  · exact sound_setting
  · exact sound_personal
  · exact sound_restriction
  · exact sound_structured
  · exact sound_suppressEmpty
  · exact sound_throttling

theorem HostStage.sort_standard : Stage.sort HostStage.standard = HostStage.standard :=
  List.mergeSort_of_pairwise ordered_standard

/-! ## The stages of a place -/

namespace Manifest

variable {σ : Type}

theorem filter_isAt_compile (actions : List Action) (place : Priority) :
    (compile actions : List (Stage σ)).filter (isAt place) =
      match place with
      | .manifestExclude => stageFor Effect.excludedChannels? ManifestStage.exclude actions
      | .manifestOptOut => [ManifestStage.optOut (optOutRules actions)]
      | .manifestThrottling =>
        stageFor Effect.throttlingDecision? ManifestStage.throttling actions
      | .manifestPersonal => stageFor Effect.personalNames? ManifestStage.markPersonal actions
      | .manifestRoute => stageFor Effect.routeTargets? ManifestStage.route actions
      | _ => [] := by
  have hexclude := filter_stageFor Effect.excludedChannels?
    (ManifestStage.exclude : _ → Stage σ) .manifestExclude (fun _ => rfl) actions place
  have hthrottling := filter_stageFor Effect.throttlingDecision?
    (ManifestStage.throttling : _ → Stage σ) .manifestThrottling (fun _ => rfl) actions place
  have hpersonal := filter_stageFor Effect.personalNames?
    (ManifestStage.markPersonal : _ → Stage σ) .manifestPersonal (fun _ => rfl) actions place
  have hroute := filter_stageFor Effect.routeTargets?
    (ManifestStage.route : _ → Stage σ) .manifestRoute (fun _ => rfl) actions place
  rw [compile, filter_isAt_sort]
  simp only [gathered, List.filter_append, hexclude, hthrottling, hpersonal, hroute]
  cases place <;> simp [isAt, ManifestStage.optOut, stateless]

end Manifest

theorem HostStage.filter_isAt_standard (place : Priority) :
    HostStage.standard.filter (isAt place) =
      match place with
      | .customOptOut => [customOptOut]
      | .metric => [metric]
      | .setting => [setting]
      | .personal => [personal]
      | .restriction => [restriction]
      | .structured => [structured]
      | .suppressEmpty => [suppressEmpty]
      | .generalThrottling => [throttling]
      | _ => [] := by
  cases place <;> rfl

theorem Stage.runAll_singleton {σ : Type} {stage : Stage σ} (hs : Sound stage)
    (around : Surroundings) (pass : Pass σ) :
    runAll around [stage] pass = stage.effect around pass :=
  runAll_cons (fun s hm => by rw [List.mem_singleton.mp hm]; exact hs) pass

/-- Of the stages of host and manifest, those of a place do what the one stage of the place does. -/
theorem Priority.runAll_isAt (place : Priority) (actions : List Action) (around : Surroundings)
    (pass : Pass HostState) :
    runAll around ((Stage.merge HostStage.standard (Manifest.compile actions)).filter
      (isAt place)) pass = (place.stage actions).effect around pass := by
  rw [filter_isAt_merge HostStage.ordered_standard, HostStage.filter_isAt_standard,
    Manifest.filter_isAt_compile]
  cases place with
  | manifestExclude =>
    refine Manifest.runAll_stageFor ManifestStage.sound_exclude (fun pass => ?_) actions pass
    rw [ManifestStage.effect_exclude]
    split <;> rfl
  | manifestThrottling =>
    refine Manifest.runAll_stageFor ManifestStage.sound_throttling (fun pass => ?_) actions pass
    rw [ManifestStage.effect_throttling]
    split <;> rfl
  | manifestPersonal =>
    refine Manifest.runAll_stageFor ManifestStage.sound_markPersonal (fun pass => ?_) actions pass
    rw [ManifestStage.effect_markPersonal]
    split <;> rfl
  | manifestRoute =>
    refine Manifest.runAll_stageFor ManifestStage.sound_route (fun pass => ?_) actions pass
    rw [ManifestStage.effect_route]
    split
    · rfl
    · simp [ManifestStage.routesBy]
  | manifestOptOut => exact runAll_singleton (ManifestStage.sound_optOut _) around pass
  | customOptOut => exact runAll_singleton HostStage.sound_customOptOut around pass
  | metric => exact runAll_singleton HostStage.sound_metric around pass
  | setting => exact runAll_singleton HostStage.sound_setting around pass
  | personal => exact runAll_singleton HostStage.sound_personal around pass
  | restriction => exact runAll_singleton HostStage.sound_restriction around pass
  | structured => exact runAll_singleton HostStage.sound_structured around pass
  | suppressEmpty => exact runAll_singleton HostStage.sound_suppressEmpty around pass
  | generalThrottling => exact runAll_singleton HostStage.sound_throttling around pass

/-! ## Where an event stands -/

namespace Processor

section

variable {σ κ : Type} (p : Processor σ κ) (manifest : Manifest) (now : Nat) (event : Event)

def surroundings : Surroundings :=
  ⟨p.session, p.registry.restrictedIds, now⟩

def stages : List (Stage σ) :=
  Stage.merge p.host manifest.stages

/-- The stamped event with a new record, before the first stage. -/
def entry : Pass σ :=
  ⟨stamp p.session (p.sequence + 1) event, .create manifest, p.state⟩

/-- The event on its way when the stages of the places below a bound have run. -/
def passBelow (bound : Nat) : Pass σ :=
  runAll (p.surroundings now)
    ((p.stages manifest).filter fun s => decide (s.priority.value < bound))
    (p.entry manifest event)

def passBefore (place : Priority) : Pass σ :=
  p.passBelow manifest now event place.value

def passAfter (place : Priority) : Pass σ :=
  p.passBelow manifest now event (place.value + 1)

theorem passBelow_zero : p.passBelow manifest now event 0 = p.entry manifest event := by
  have hnone : (p.stages manifest).filter (fun s => decide (s.priority.value < 0)) = [] :=
    List.filter_eq_nil_iff.mpr fun s _ => by simp
  rw [passBelow, hnone]
  rfl

theorem takeContext_fst (pool : List Context) :
    (takeContext pool manifest).1 = .create manifest := by
  cases pool <;> rfl

/-- Behind the last place all stages have run. -/
theorem passAfter_route :
    p.passAfter manifest now event .manifestRoute =
      runAll (p.surroundings now) (p.stages manifest) (p.entry manifest event) := by
  have hall : (p.stages manifest).filter
      (fun s => decide (s.priority.value < Priority.manifestRoute.value + 1)) =
        p.stages manifest :=
    List.filter_eq_self.mpr fun s _ => decide_eq_true (Nat.lt_succ_of_le s.priority.value_le)
  rw [passAfter, passBelow, hall]

theorem process_fst :
    (p.process manifest now event).1 =
      outcome p.registry (p.passAfter manifest now event .manifestRoute) := by
  rw [passAfter_route]
  simp only [process, run, takeContext_fst]
  rfl

theorem state_process :
    (p.process manifest now event).2.state =
      (p.passAfter manifest now event .manifestRoute).state := by
  rw [passAfter_route]
  simp only [process, run, takeContext_fst]
  rfl

end

theorem host_standard {κ : Type} (session : Session) (registry : Registry κ) (now : Nat) :
    (standard session registry now).host = HostStage.standard :=
  HostStage.sort_standard

/-! ## From place to place -/

section

variable {κ : Type} {p : Processor HostState κ} (hhost : p.host = HostStage.standard)
  (manifest : Manifest) (now : Nat) (event : Event)

include hhost

theorem ordered_stages : Ordered (p.stages manifest) := by
  rw [stages, hhost]
  exact HostStage.ordered_standard.merge (Manifest.ordered_compile manifest.actions)

theorem sound_stages {s : Stage HostState} (hs : s ∈ p.stages manifest) : Sound s := by
  rw [stages, hhost, mem_merge] at hs
  rcases hs with hs | hs
  · exact HostStage.sound_of_mem_standard hs
  · exact Manifest.sound_of_mem_compile hs

/-- From one bound to another an event passes the stages of the places between them. -/
theorem passBelow_eq_foldl {a b : Nat} (hab : a ≤ b) :
    p.passBelow manifest now event b =
      (Priority.all.filter fun q => decide (a ≤ q.value) && decide (q.value < b)).foldl
        (fun pass q => (q.stage manifest.actions).effect (p.surroundings now) pass)
        (p.passBelow manifest now event a) := by
  have hord : Ordered (p.stages manifest) := ordered_stages hhost manifest
  have hsound : ∀ s ∈ p.stages manifest, Sound s := fun s hs => sound_stages hhost manifest hs
  have hplaces : ∀ (q : Priority) (pass : Pass HostState),
      runAll (p.surroundings now) ((p.stages manifest).filter (isAt q)) pass =
        (q.stage manifest.actions).effect (p.surroundings now) pass := by
    intro q pass
    rw [stages, hhost]
    exact q.runAll_isAt manifest.actions (p.surroundings now) pass
  rw [passBelow, hord.below_eq_append hab, runAll_append, runAll_flatMap]
  · simp only [hplaces]
    rfl
  · intro q _ s hs
    exact hsound s (List.mem_filter.mp hs).1
  · intro s hs
    rcases List.mem_append.mp hs with hs | hs
    · exact hsound s (List.mem_filter.mp hs).1
    · obtain ⟨q, _, hs⟩ := List.mem_flatMap.mp hs
      exact hsound s (List.mem_filter.mp hs).1

theorem passAfter_route_eq_foldl :
    p.passAfter manifest now event .manifestRoute =
      Priority.all.foldl
        (fun pass q => (q.stage manifest.actions).effect (p.surroundings now) pass)
        (p.entry manifest event) := by
  have hall : (Priority.all.filter fun q =>
      decide (0 ≤ q.value) && decide (q.value < Priority.manifestRoute.value + 1)) =
        Priority.all := by
    decide
  rw [passAfter, passBelow_eq_foldl hhost manifest now event (Nat.zero_le _), hall,
    passBelow_zero]

/-- The outcome of an event is that of passing one stage for each place. -/
theorem process_fst_eq_foldl :
    (p.process manifest now event).1 =
      outcome p.registry (Priority.all.foldl
        (fun pass q => (q.stage manifest.actions).effect (p.surroundings now) pass)
        (p.entry manifest event)) := by
  rw [process_fst, passAfter_route_eq_foldl hhost]

theorem passAfter_eq (place : Priority) :
    p.passAfter manifest now event place =
      (place.stage manifest.actions).effect (p.surroundings now)
        (p.passBefore manifest now event place) := by
  have hplace : (Priority.all.filter fun q =>
      decide (place.value ≤ q.value) && decide (q.value < place.value + 1)) = [place] := by
    cases place <;> rfl
  rw [passAfter, passBelow_eq_foldl hhost manifest now event (Nat.le_succ place.value), hplace]
  rfl

/-- What holds of a pass at one bound and is kept by the stages in between holds at the other. -/
theorem passBelow_induction {motive : Pass HostState → Prop} {a b : Nat} (hab : a ≤ b)
    (start : motive (p.passBelow manifest now event a))
    (step : ∀ q : Priority, a ≤ q.value → q.value < b → ∀ pass, motive pass →
      motive ((q.stage manifest.actions).effect (p.surroundings now) pass)) :
    motive (p.passBelow manifest now event b) := by
  rw [passBelow_eq_foldl hhost manifest now event hab]
  refine List.foldlRecOn _ _ start fun pass hpass q hq => ?_
  simp only [List.mem_filter, Bool.and_eq_true, decide_eq_true_eq] at hq
  exact step q hq.2.1 hq.2.2 pass hpass

/-- A part of a pass that no stage in between touches is at both bounds the same. -/
theorem passBelow_congr {α : Type} (part : Pass HostState → α) {a b : Nat} (hab : a ≤ b)
    (step : ∀ q : Priority, a ≤ q.value → q.value < b → ∀ pass,
      part ((q.stage manifest.actions).effect (p.surroundings now) pass) = part pass) :
    part (p.passBelow manifest now event b) = part (p.passBelow manifest now event a) :=
  passBelow_induction hhost manifest now event (motive := fun pass =>
    part pass = part (p.passBelow manifest now event a)) hab rfl
    fun q ha hb pass hpass => (step q ha hb pass).trans hpass

theorem dropped_passBelow {a b : Nat} (hab : a ≤ b)
    (hd : (p.passBelow manifest now event b).context.dropped = false) :
    (p.passBelow manifest now event a).context.dropped = false := by
  cases ha : (p.passBelow manifest now event a).context.dropped with
  | false => rfl
  | true =>
    have hb := passBelow_induction hhost manifest now event (motive := fun pass =>
      pass.context.dropped = true) hab ha fun q _ _ pass hpass => by
        rw [(q.sound_stage manifest.actions).effect_of_dropped hpass, hpass]
    rw [hb] at hd
    exact absurd hd (by decide)

end

end Processor

end EventGate
