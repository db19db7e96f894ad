import EventGate.Proofs.Alike
import EventGate.Proofs.Bags

/-! # The order of rules

What rules do to an event does not depend on how rules of different kinds are mixed. Of one kind,
only rules on throttling and routes depend on their own order.
-/

namespace EventGate

open Stage Text

/-! ## Actions in another order -/

def Action.isDecision (action : Action) : Bool :=
  match action.effect with
  | .throttle _ | .doNotThrottle _ => true
  | _ => false

def Action.isRoute (action : Action) : Bool :=
  match action.effect with
  | .route _ => true
  | _ => false

/-- The same actions in another order, but with the decisions on throttling in the same order among
themselves, and the routes as well. -/
structure Reordered (actions others : List Action) : Prop where
  perm : actions.Perm others
  decisions : actions.filter Action.isDecision = others.filter Action.isDecision
  routes : actions.filter Action.isRoute = others.filter Action.isRoute

namespace Guarded

variable {α : Type} {pick : Effect → Option α}

theorem select_perm (pick : Effect → Option α) {actions others : List Action}
    (h : actions.Perm others) : (select pick actions).Perm (select pick others) :=
  h.filterMap _

theorem select_filter {keep : Action → Bool}
    (hkeep : ∀ action, keep action = false → pick action.effect = none) (actions : List Action) :
    select pick (actions.filter keep) = select pick actions := by
  induction actions with
  | nil => rfl
  | cons action rest ih =>
    unfold select at ih ⊢
    rw [List.filterMap_cons, List.filter_cons]
    cases hk : keep action with
    | true => rw [if_pos rfl, List.filterMap_cons, ih]
    | false =>
      rw [if_neg Bool.false_ne_true, hkeep action hk]
      exact ih

end Guarded

namespace Reordered

variable {actions others : List Action}

theorem select_decisions (h : Reordered actions others) :
    Guarded.select Effect.throttlingDecision? actions =
      Guarded.select Effect.throttlingDecision? others := by
  have hkeep : ∀ action : Action, action.isDecision = false →
      action.effect.throttlingDecision? = none := by
    rintro ⟨condition, effect⟩ hk
    cases effect with
    | throttle flag | doNotThrottle flag => exact absurd hk Bool.noConfusion
    | _ => rfl
  rw [← Guarded.select_filter hkeep actions, h.decisions, Guarded.select_filter hkeep]

theorem select_routes (h : Reordered actions others) :
    Guarded.select Effect.routeTargets? actions = Guarded.select Effect.routeTargets? others := by
  have hkeep : ∀ action : Action, action.isRoute = false → action.effect.routeTargets? = none := by
    rintro ⟨condition, effect⟩ hk
    cases effect with
    | route targets => exact absurd hk Bool.noConfusion
    | _ => rfl
  rw [← Guarded.select_filter hkeep actions, h.routes, Guarded.select_filter hkeep]

end Reordered

/-! ## Names in another order -/

theorem ManifestStage.namesBy_perm {rules others : List (Guarded (List String))}
    (h : rules.Perm others) (event : Event) :
    (namesBy rules event).Perm (namesBy others event) :=
  (h.filter _).flatMap_right _

namespace Event

theorem alike_excludeAll_of_perm (event : Event) {names others : List String}
    (h : names.Perm others) : (event.excludeAll names).Alike (event.excludeAll others) := by
  refine ⟨?_, ?_, fun key => ?_⟩
  · rw [core_excludeAll, core_excludeAll]
  · rw [properties_excludeAll, properties_excludeAll]
  · rw [mem_excluded_excludeAll, mem_excluded_excludeAll]
    simp only [h.mem_iff]

theorem alike_readmitAll_of_perm (event : Event) {names others : List String}
    (h : names.Perm others) : (event.readmitAll names).Alike (event.readmitAll others) := by
  refine ⟨?_, ?_, fun key => ?_⟩
  · rw [core_readmitAll, core_readmitAll]
  · rw [properties_readmitAll, properties_readmitAll]
  · rw [mem_excluded_readmitAll, mem_excluded_readmitAll]
    simp only [h.mem_iff]

end Event

namespace ManifestStage

/-- Marking twice is marking once, so two marks can change places. -/
theorem modify_marked_comm (bag : Bag) (x y : String) :
    (bag.modify x marked).modify y marked = (bag.modify y marked).modify x marked := by
  refine Bag.ext ?_
  rw [Bag.entries_modify, Bag.entries_modify, Bag.entries_modify, Bag.entries_modify,
    List.map_map, List.map_map]
  refine List.map_congr_left fun e _ => ?_
  cases hx : sameName e.1 x <;> cases hy : sameName e.1 y <;> simp [hx, hy]

theorem markedBag_perm {rules others : List (Guarded (List String))} (h : rules.Perm others)
    (event : Event) : markedBag rules event = markedBag others event :=
  (namesBy_perm h event).foldl_eq' (fun x _ y _ bag => modify_marked_comm bag x y) _

theorem verdict_perm {actions others : List Action} (h : actions.Perm others) (event : Event)
    (given : OptOutVerdict) :
    verdict (Manifest.optOutRules actions) event given =
      verdict (Manifest.optOutRules others) event given := by
  have hdenied : (Manifest.optOutRules actions).deniedEvents.any (names event) =
      (Manifest.optOutRules others).deniedEvents.any (names event) :=
    (Guarded.select_perm _ h).any_eq
  have hallowed : (Manifest.optOutRules actions).allowedEvents.any (names event) =
      (Manifest.optOutRules others).allowedEvents.any (names event) :=
    (Guarded.select_perm _ h).any_eq
  rw [verdict, verdict, hdenied, hallowed]

theorem alike_filtered_of_perm {actions others : List Action} (h : actions.Perm others)
    (event : Event) :
    (filtered (Manifest.optOutRules actions) event).Alike
      (filtered (Manifest.optOutRules others) event) := by
  rw [filtered_eq, filtered_eq]
  have hallowed := event.alike_readmitAll_of_perm
    (namesBy_perm (Guarded.select_perm Effect.allowedProperties? h) event)
  exact (hallowed.excludeAll _).trans (Event.alike_excludeAll_of_perm _
    (namesBy_perm (Guarded.select_perm Effect.deniedProperties? h) event))

end ManifestStage

/-! ## Stages under both orders -/

/-- Whatever the order of the actions, a stage does the same to a pass. -/
theorem Reordered.alike_effect {actions others : List Action} (h : Reordered actions others)
    (place : Priority) (around : Surroundings) (pass : Pass HostState) :
    ((place.stage actions).effect around pass).Alike
      ((place.stage others).effect around pass) := by
  cases place with
  | manifestExclude =>
    have hperm : (Guarded.select Effect.excludedChannels? actions).Perm
        (Guarded.select Effect.excludedChannels? others) := Guarded.select_perm _ h.perm
    rw [Priority.stage, Priority.stage, ManifestStage.effect_exclude, ManifestStage.effect_exclude]
    split
    · exact .refl pass
    · refine ⟨.refl _, ManifestStage.alike_excludeBy (.refl _) hperm.symm.any_eq fun key => ?_, rfl⟩
      simp only [hperm.mem_iff]
  | manifestOptOut =>
    rw [Priority.stage, Priority.stage, ManifestStage.effect_optOut, ManifestStage.effect_optOut,
      ManifestStage.verdict_perm h.perm]
    split
    · exact .refl pass
    · split
      · exact ⟨ManifestStage.alike_filtered_of_perm h.perm pass.event, .refl _, rfl⟩
      · exact .refl _
  | manifestThrottling =>
    rw [Priority.stage, Priority.stage, h.select_decisions]
    exact .refl _
  | manifestPersonal =>
    rw [Priority.stage, Priority.stage, ManifestStage.effect_markPersonal,
      ManifestStage.effect_markPersonal,
      ManifestStage.markedBag_perm (Guarded.select_perm _ h.perm) pass.event]
    exact .refl _
  | manifestRoute =>
    rw [Priority.stage, Priority.stage, h.select_routes]
    exact .refl _
  | customOptOut | metric | setting | personal | restriction | structured | suppressEmpty
  | generalThrottling => exact .refl _

/-! ## Outcomes under both orders -/

theorem Registry.dispatch_congr {κ : Type} (registry : Registry κ) (routes : List Routed)
    {x y : NameSet} (h : x.Same y) : registry.dispatch routes y = registry.dispatch routes x := by
  have hcontains : y.contains = x.contains := funext fun id => (h.contains id).symm
  unfold dispatch delivery?
  rw [hcontains]

namespace Processor

variable {κ : Type}

/-- On the whole way, the order of the actions makes no difference. -/
theorem alike_passAfter_route {p : Processor HostState κ} (hhost : p.host = HostStage.standard)
    {a b : Manifest} (hrules : Reordered a.actions b.actions)
    (hlimit : a.throttling = b.throttling) (now : Nat) (event : Event) :
    (p.passAfter a now event .manifestRoute).Alike (p.passAfter b now event .manifestRoute) := by
  rw [passAfter_route_eq_foldl hhost, passAfter_route_eq_foldl hhost]
  refine List.foldl_rel ⟨.refl _, { Context.Alike.refl (.create a) with limit := hlimit.symm }, rfl⟩
    fun q _ x y hxy => ?_
  exact (hxy.effect q a.actions _).trans (hrules.alike_effect q _ y)

/-- Two manifests with the same actions, in orders that agree on the decisions on throttling and on
the routes, have the same outcome for every event, and leave the processor in the same state. -/
theorem process_of_reordered {p : Processor HostState κ} (hhost : p.host = HostStage.standard)
    {a b : Manifest} (hrules : Reordered a.actions b.actions)
    (hlimit : a.throttling = b.throttling) (now : Nat) (event : Event) :
    let x := p.process a now event
    let y := p.process b now event
    y.1.dropped = x.1.dropped ∧ y.1.throttled = x.1.throttled ∧
      y.1.throttling = x.1.throttling ∧ y.1.routes = x.1.routes ∧
      y.1.deliveries = x.1.deliveries ∧ x.1.event.Alike y.1.event ∧
      y.2.state = x.2.state ∧ y.2.stats = x.2.stats ∧
      (x.1.dropped = false → y.1.excludedChannels = x.1.excludedChannels) := by
  intro x y
  have hpass := alike_passAfter_route hhost hrules hlimit now event
  have hx : x.1 = outcome p.registry (p.passAfter a now event .manifestRoute) :=
    p.process_fst a now event
  have hy : y.1 = outcome p.registry (p.passAfter b now event .manifestRoute) :=
    p.process_fst b now event
  have hdropped : y.1.dropped = x.1.dropped := by
    rw [hx, hy, dropped_outcome, dropped_outcome, hpass.context.dropped]
  have hthrottled : y.1.throttled = x.1.throttled := by
    rw [hx, hy, throttled_outcome, throttled_outcome, hpass.context.dropped,
      hpass.context.throttled]
  have hroutes : y.1.routes = x.1.routes := by
    rw [hx, hy, routes_outcome, routes_outcome, hpass.context.dropped, hpass.context.routes]
  refine ⟨hdropped, hthrottled, ?_, hroutes, ?_, ?_, ?_, ?_, fun hd => ?_⟩
  · rw [hx, hy, throttling_outcome, throttling_outcome, hpass.context.throttling]
  · rw [hx, hy, deliveries_outcome, deliveries_outcome, hpass.context.dropped,
      hpass.context.routes]
    split
    next => rfl
    next hd =>
      exact p.registry.dispatch_congr _ (hpass.context.excludedChannels (eq_false_of_ne_true hd))
  · rw [hx, hy, event_outcome, event_outcome]
    exact hpass.event
  · rw [state_process, state_process, hpass.state]
  · change count p.stats y.1 = count p.stats x.1
    simp only [count, hdropped, hthrottled, hroutes]
  · rw [hx, dropped_outcome] at hd
    rw [hx, hy, excludedChannels_outcome, excludedChannels_outcome,
      (hpass.context.excludedChannels hd).sorted]

end Processor

namespace Sample

def survey : Event :=
  { (pageView.put "Page" (.text "home")).put "Reader" (.text "a@b.c") with
    friendly := true
    friendlyNames := .ofList ["Page", "Reader"] }

/-- Rules of all kinds that change the survey or its way. -/
def rules : List Action :=
  [⟨none, .denyProperties ["reader"]⟩, ⟨none, .allowProperties ["Reader"]⟩,
    ⟨none, .markPersonal ["Page"]⟩, ⟨none, .route [⟨"ads", .property "Page"⟩]⟩,
    ⟨none, .excludeFrom ["AUDIT"]⟩]

theorem reordered_rules : Reordered rules rules.reverse :=
  ⟨(List.reverse_perm rules).symm, rfl, rfl⟩

end Sample

/-- The survey goes to the same channel without its reader, whether the rules are read from first to
last or from last to first. -/
theorem survey_under_reversed_rules :
    let p := Processor.standard { Session.create "s" with optedOut := true } Sample.registry 0
    let forward := { Manifest.bundled with actions := Sample.rules }
    let backward := { Manifest.bundled with actions := Sample.rules.reverse }
    let x := (p.process forward 0 Sample.survey).1
    let y := (p.process backward 0 Sample.survey).1
    p.host = HostStage.standard ∧ Reordered forward.actions backward.actions ∧
      forward.throttling = backward.throttling ∧ x.delivered = ["Ads"] ∧
      x.event.isExcluded "Reader" = true ∧ y.delivered = ["Ads"] ∧
      y.event.isExcluded "Reader" = true := by
  intro p forward backward x y
  have hhost : p.host = HostStage.standard := Processor.host_standard _ _ _
  have hrun : x.delivered = ["Ads"] ∧ x.event.isExcluded "Reader" = true := by
    rw [show x = _ from Processor.process_fst_eq_foldl hhost _ _ _]
    decide +kernel
  obtain ⟨-, -, -, -, hdeliveries, hevent, -⟩ :=
    Processor.process_of_reordered hhost (a := forward) (b := backward) Sample.reordered_rules rfl 0
      Sample.survey
  exact ⟨hhost, Sample.reordered_rules, rfl, hrun.1, hrun.2,
    (congrArg (List.map Delivery.id) hdeliveries).trans hrun.1,
    (hevent.isExcluded "Reader").trans hrun.2⟩

end EventGate
