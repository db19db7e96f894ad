import EventGate.Proofs.Passage
import EventGate.Proofs.Sending

/-! # What the stages leave alone

Each stage touches a few parts of a pass. All other parts are at the end of a stretch of the way
what they were at its start.
-/

namespace EventGate

open Stage

/-- What the stage of a place leaves alone, if it does not belong to its task. -/
structure Keeps (place : Priority) (before after : Pass HostState) : Prop where
  manifest : after.context.manifest = before.context.manifest
  throttling : place ≠ .manifestThrottling →
    after.context.throttling = before.context.throttling
  optOut : place ≠ .customOptOut → place ≠ .manifestOptOut →
    after.context.optOut = before.context.optOut
  routes : place ≠ .manifestRoute → after.context.routes = before.context.routes
  excludedChannels : place ≠ .manifestExclude → place ≠ .restriction →
    after.context.excludedChannels = before.context.excludedChannels
  settings : place ≠ .setting → after.state.settings = before.state.settings
  window : place ≠ .generalThrottling → after.state.window = before.state.window
  core : after.event.core = before.event.core
  excluded : place ≠ .customOptOut → place ≠ .manifestOptOut → place ≠ .suppressEmpty →
    after.event.excluded = before.event.excluded
  properties : place ≠ .manifestPersonal → place ≠ .metric → place ≠ .personal →
    place ≠ .structured → after.event.properties = before.event.properties

namespace Keeps

theorem refl (place : Priority) (pass : Pass HostState) : Keeps place pass pass := by
  constructor <;> intros <;> rfl

end Keeps

theorem ManifestStage.excludeBy_eq (event : Event) (rules : List (Guarded (List String)))
    (context : Context) :
    (excludeBy event rules context).2 =
      { context with
        dropped := (excludeBy event rules context).2.dropped
        excludedChannels := (excludeBy event rules context).2.excludedChannels } := by
  induction rules generalizing context with
  | nil => rfl
  | cons rule rest ih =>
    unfold excludeBy
    split
    · split
      · rfl
      · rw [ih, Context.excludeChannels_eq]
    · rw [ih]

/-- Every stage leaves alone what does not belong to its task. -/
theorem keeps_effect (place : Priority) (actions : List Action) (around : Surroundings)
    (pass : Pass HostState) :
    Keeps place pass ((place.stage actions).effect around pass) := by
  cases place with
  | manifestExclude =>
    rw [Priority.stage, ManifestStage.effect_exclude]
    split
    · exact Keeps.refl _ pass
    · rw [ManifestStage.excludeBy_eq]
      constructor <;> intros <;> first | rfl | contradiction
  | customOptOut =>
    rw [Priority.stage, HostStage.effect_customOptOut]
    split
    · exact Keeps.refl _ pass
    · split <;> constructor <;> intros <;> first | rfl | contradiction | simp
  | manifestOptOut =>
    rw [Priority.stage, ManifestStage.effect_optOut]
    split
    · exact Keeps.refl _ pass
    · split <;> constructor <;> intros <;> first | rfl | contradiction | simp
  | manifestThrottling =>
    rw [Priority.stage, ManifestStage.effect_throttling]
    split
    · exact Keeps.refl _ pass
    · constructor <;> intros <;> first | rfl | contradiction
  | manifestPersonal =>
    rw [Priority.stage, ManifestStage.effect_markPersonal]
    split
    · exact Keeps.refl _ pass
    · constructor <;> intros <;> first | rfl | contradiction
  | metric =>
    rw [Priority.stage, HostStage.effect_metric]
    split
    · exact Keeps.refl _ pass
    · split <;> constructor <;> intros <;> first | rfl | contradiction
  | setting =>
    rw [Priority.stage, HostStage.effect_setting]
    split
    · exact Keeps.refl _ pass
    · dsimp only
      split <;> constructor <;> intros <;> first | rfl | contradiction
  | personal =>
    have hparts := Personal.hashAllWith_parts Digest.ofText around.session pass.event
    rw [Priority.stage, HostStage.effect_personal]
    split
    · exact Keeps.refl _ pass
    · constructor <;> intros <;>
        first | rfl | contradiction | exact hparts.1 | exact hparts.2
  | restriction =>
    rw [Priority.stage, HostStage.effect_restriction]
    split
    · exact Keeps.refl _ pass
    · rw [Context.excludeChannels_eq]
      constructor <;> intros <;> first | rfl | contradiction
  | structured =>
    rw [Priority.stage, HostStage.effect_structured]
    split
    · exact Keeps.refl _ pass
    · constructor <;> intros <;> first | rfl | contradiction
  | suppressEmpty =>
    rw [Priority.stage, HostStage.effect_suppressEmpty]
    split
    · exact Keeps.refl _ pass
    · constructor <;> intros <;> first | rfl | contradiction | simp
  | generalThrottling =>
    rw [Priority.stage, HostStage.effect_throttling]
    split
    · exact Keeps.refl _ pass
    · dsimp only
      split <;> constructor <;> intros <;> first | rfl | contradiction
  | manifestRoute =>
    rw [Priority.stage, ManifestStage.effect_route]
    split
    · exact Keeps.refl _ pass
    · constructor <;> intros <;> first | rfl | contradiction

theorem throttling_effect (place : Priority) (hplace : place ≠ .manifestThrottling)
    (actions : List Action) (around : Surroundings) (pass : Pass HostState) :
    ((place.stage actions).effect around pass).context.throttling = pass.context.throttling :=
  (keeps_effect place actions around pass).throttling hplace

theorem window_effect (place : Priority) (hplace : place ≠ .generalThrottling)
    (actions : List Action) (around : Surroundings) (pass : Pass HostState) :
    ((place.stage actions).effect around pass).state.window = pass.state.window :=
  (keeps_effect place actions around pass).window hplace

theorem settings_effect (place : Priority) (hplace : place ≠ .setting) (actions : List Action)
    (around : Surroundings) (pass : Pass HostState) :
    ((place.stage actions).effect around pass).state.settings = pass.state.settings :=
  (keeps_effect place actions around pass).settings hplace

/-! ## What the stages add to what is sent -/

/-- Without rules that let properties pass, the opt-out rules only hold properties back. -/
theorem ManifestStage.sendsOnly_filtered {allowed : String → Prop} {rules : OptOutRules}
    (hrules : rules.allowedProperties = []) {event : Event} (h : event.SendsOnly allowed) :
    (filtered rules event).SendsOnly allowed := by
  have hallowed : changeBy Event.readmitAll event rules.allowedProperties = event := by
    rw [hrules]
    rfl
  rw [filtered, hallowed]
  exact changeBy_induction (motive := Event.SendsOnly allowed) Event.excludeAll _ event h
    fun _ names he => he.excludeAll names

/-- Of the stages other than hashing, only that of metrics and the opt-out rules that let properties
pass add to what is sent. -/
theorem sendsOnly_effect {allowed : String → Prop} {place : Priority} (actions : List Action)
    (around : Surroundings) (hpersonal : place ≠ .personal)
    (hmetric : place = .metric →
      allowed HostStage.metricNameProperty ∧ allowed HostStage.metricValueProperty)
    (hoptOut : place = .manifestOptOut → (Manifest.optOutRules actions).allowedProperties = [])
    {pass : Pass HostState} (h : pass.event.SendsOnly allowed) :
    ((place.stage actions).effect around pass).event.SendsOnly allowed := by
  have hkeeps : Keeps place pass ((place.stage actions).effect around pass) :=
    keeps_effect place actions around pass
  have hsame {other : Event} (hprops : other.properties = pass.event.properties)
      (hexcl : other.excluded = pass.event.excluded) : other.SendsOnly allowed :=
    h.of_names (congrArg Bag.names hprops) hexcl
  cases place with
  | customOptOut =>
    rw [Priority.stage, HostStage.effect_customOptOut]
    split
    · exact h
    · split
      · exact h.excludeAll _
      · exact h
  | manifestOptOut =>
    rw [Priority.stage, ManifestStage.effect_optOut]
    split
    · exact h
    · split
      · exact ManifestStage.sendsOnly_filtered (hoptOut rfl) h
      · exact h
  | manifestPersonal =>
    rw [Priority.stage, ManifestStage.effect_markPersonal]
    split
    · exact h
    · exact h.of_names (ManifestStage.names_markedBag _ pass.event) rfl
  | metric =>
    rw [Priority.stage, HostStage.effect_metric]
    split
    · exact h
    · split
      · exact h
      · exact (h.put (fun _ => (hmetric rfl).1) _).put (fun _ => (hmetric rfl).2) _
  | personal => exact absurd rfl hpersonal
  | structured =>
    rw [Priority.stage, HostStage.effect_structured]
    split
    · exact h
    · exact h.of_names (pass.event.properties.names_mapValues _) rfl
  | suppressEmpty =>
    rw [Priority.stage, HostStage.effect_suppressEmpty]
    split
    · exact h
    · exact h.excludeAll _
  | manifestExclude | manifestThrottling | setting | restriction | generalThrottling
  | manifestRoute =>
    exact hsame (hkeeps.properties (by decide) (by decide) (by decide) (by decide))
      (hkeeps.excluded (by decide) (by decide) (by decide))

/-- Between two bounds without the hashing between them, an event comes to send nothing that is not
allowed, if the measurement of a metric is allowed and no rule lets properties pass. -/
theorem Processor.sendsOnly_passBelow {κ : Type} {p : Processor HostState κ}
    (hhost : p.host = HostStage.standard) (manifest : Manifest) (now : Nat) (event : Event)
    {allowed : String → Prop} {a b : Nat} (hab : a ≤ b)
    (hpersonal : b ≤ Priority.personal.value ∨ Priority.personal.value < a)
    (hmetric : allowed HostStage.metricNameProperty ∧ allowed HostStage.metricValueProperty)
    (hoptOut : a ≤ Priority.manifestOptOut.value →
      (Manifest.optOutRules manifest.actions).allowedProperties = [])
    (h : (p.passBelow manifest now event a).event.SendsOnly allowed) :
    (p.passBelow manifest now event b).event.SendsOnly allowed := by
  refine passBelow_induction hhost manifest now event
    (motive := fun pass => pass.event.SendsOnly allowed) hab h fun q ha hb pass hpass => ?_
  refine sendsOnly_effect manifest.actions (p.surroundings now) ?_ (fun _ => hmetric) ?_ hpass
  · rintro rfl
    omega
  · rintro rfl
    exact hoptOut ha

/-! ## What an event keeps on its way -/

namespace Processor

section

variable {κ : Type} {p : Processor HostState κ} (hhost : p.host = HostStage.standard)
  (manifest : Manifest) (now : Nat) (event : Event)

include hhost

/-- A part that only the stages of some places touch is the same at two bounds with none of these
places in between. -/
theorem part_between {α : Type} (part : Pass HostState → α) {places : List Priority}
    (hpart : ∀ q, q ∉ places → ∀ actions around pass,
      part ((q.stage actions).effect around pass) = part pass)
    {a b : Nat} (hab : a ≤ b) (hnone : ∀ q ∈ places, q.value < a ∨ b ≤ q.value) :
    part (p.passBelow manifest now event b) = part (p.passBelow manifest now event a) := by
  refine passBelow_congr hhost manifest now event part hab fun q hlow hhigh pass => ?_
  refine hpart q (fun hmem => ?_) _ _ pass
  have hout := hnone q hmem
  omega

/-- A part that only the stage of one place touches is up to this place what it was at the start. -/
theorem part_before_place {α : Type} (part : Pass HostState → α) (place : Priority)
    (hpart : ∀ q, q ≠ place → ∀ actions around pass,
      part ((q.stage actions).effect around pass) = part pass)
    {bound : Nat} (hbound : bound ≤ place.value) :
    part (p.passBelow manifest now event bound) = part (p.entry manifest event) := by
  have hsame := part_between hhost manifest now event part
    (fun q hq => hpart q fun heq => hq (heq ▸ List.mem_singleton_self q)) (Nat.zero_le bound)
    fun _ hq => .inr (List.mem_singleton.mp hq ▸ hbound)
  rwa [passBelow_zero] at hsame

/-- A part that only the stage of one place touches stays behind this place as it left it. -/
theorem part_behind_place {α : Type} (part : Pass HostState → α) (place : Priority)
    (hpart : ∀ q, q ≠ place → ∀ actions around pass,
      part ((q.stage actions).effect around pass) = part pass)
    {bound : Nat} (hbound : place.value < bound) :
    part (p.passBelow manifest now event bound) = part (p.passAfter manifest now event place) :=
  part_between hhost manifest now event part
    (fun q hq => hpart q fun heq => hq (heq ▸ List.mem_singleton_self q)) hbound
    fun _ hq => .inl (List.mem_singleton.mp hq ▸ Nat.lt_succ_self _)

theorem core_passBelow (bound : Nat) :
    (p.passBelow manifest now event bound).event.core = event.core := by
  rw [passBelow_congr hhost manifest now event (fun pass => pass.event.core) (Nat.zero_le bound)
    fun q _ _ pass => (keeps_effect q _ _ pass).core, passBelow_zero]
  rfl

/-- An event keeps all that has nothing to do with its properties and those held back. -/
theorem part_passBelow {α : Type} (part : Event → α) (hpart : ∀ e : Event, part e.core = part e)
    (bound : Nat) : part (p.passBelow manifest now event bound).event = part event := by
  rw [← hpart, core_passBelow hhost, hpart]

theorem properties_passBelow_of_no_change {a b : Nat} (hab : a ≤ b)
    (hnone : ∀ q ∈ [Priority.manifestPersonal, .metric, .personal, .structured],
      q.value < a ∨ b ≤ q.value) :
    (p.passBelow manifest now event b).event.properties =
      (p.passBelow manifest now event a).event.properties := by
  refine part_between hhost manifest now event (fun pass => pass.event.properties)
    (fun q hq _ _ pass => ?_) hab hnone
  simp only [List.mem_cons, List.not_mem_nil, or_false, not_or] at hq
  obtain ⟨hmarks, hmetric, hpersonal, hstructured⟩ := hq
  exact (keeps_effect q _ _ pass).properties hmarks hmetric hpersonal hstructured

theorem properties_passBelow {bound : Nat} (hbound : bound ≤ Priority.manifestPersonal.value) :
    (p.passBelow manifest now event bound).event.properties =
      (stamp p.session (p.sequence + 1) event).properties := by
  have hall : ∀ q ∈ [Priority.manifestPersonal, .metric, .personal, .structured],
      Priority.manifestPersonal.value ≤ q.value := by decide
  rw [properties_passBelow_of_no_change hhost manifest now event (Nat.zero_le bound)
    fun q hq => .inr (Nat.le_trans hbound (hall q hq)), passBelow_zero]
  rfl

theorem excluded_passBelow_of_no_change {a b : Nat} (hab : a ≤ b)
    (hnone : ∀ q ∈ [Priority.customOptOut, .manifestOptOut, .suppressEmpty],
      q.value < a ∨ b ≤ q.value) :
    (p.passBelow manifest now event b).event.excluded =
      (p.passBelow manifest now event a).event.excluded := by
  refine part_between hhost manifest now event (fun pass => pass.event.excluded)
    (fun q hq _ _ pass => ?_) hab hnone
  simp only [List.mem_cons, List.not_mem_nil, or_false, not_or] at hq
  obtain ⟨hcustom, hmanifest, hempty⟩ := hq
  exact (keeps_effect q _ _ pass).excluded hcustom hmanifest hempty

theorem excludedChannels_passBelow_of_no_change {a b : Nat} (hab : a ≤ b)
    (hnone : ∀ q ∈ [Priority.manifestExclude, .restriction], q.value < a ∨ b ≤ q.value) :
    (p.passBelow manifest now event b).context.excludedChannels =
      (p.passBelow manifest now event a).context.excludedChannels := by
  refine part_between hhost manifest now event (fun pass => pass.context.excludedChannels)
    (fun q hq _ _ pass => ?_) hab hnone
  simp only [List.mem_cons, List.not_mem_nil, or_false, not_or] at hq
  exact (keeps_effect q _ _ pass).excludedChannels hq.1 hq.2

theorem passAfter_exclude :
    p.passAfter manifest now event .manifestExclude =
      { p.entry manifest event with
        context := (ManifestStage.excludeBy (stamp p.session (p.sequence + 1) event)
          (Guarded.select Effect.excludedChannels? manifest.actions) (.create manifest)).2 } := by
  have hbefore : p.passBefore manifest now event .manifestExclude = p.entry manifest event :=
    p.passBelow_zero manifest now event
  rw [passAfter_eq hhost, hbefore, Priority.stage, ManifestStage.effect_exclude]
  exact if_neg Bool.false_ne_true

end

end Processor

end EventGate
