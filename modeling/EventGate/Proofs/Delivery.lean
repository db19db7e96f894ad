import EventGate.Channel.Inbox
import EventGate.Proofs.ChannelRegistry
import EventGate.Proofs.Frames
import EventGate.Proofs.Rules

/-! # Who gets an event

A channel gets an event that was not dropped when no rule and no restriction keeps it away, and it
takes every event or a rule routes the event to it. What it gets are the arguments of these rules.
-/

namespace EventGate

open Stage Text

/-! ## What the rules say -/

namespace Manifest

def keepsFrom (manifest : Manifest) (event : Event) (id : String) : Bool :=
  manifest.actions.any fun action =>
    match action.effect with
    | .excludeFrom channels => action.applies event && channels.any fun c => sameName c id
    | _ => false

def routesTo (manifest : Manifest) (event : Event) (id : String) : Bool :=
  manifest.actions.any fun action =>
    match action.effect with
    | .route targets => action.applies event && targets.any fun t => sameName t.channel id
    | _ => false

/-- The arguments for the channel of an id, of all rules that apply to an event in their order. -/
def argumentsTo (manifest : Manifest) (event : Event) (id : String) : List RouteArgument :=
  manifest.actions.flatMap fun action =>
    match action.effect with
    | .route targets =>
      if action.applies event then
        (targets.filter fun t => sameName t.channel id).map RouteTarget.argument
      else []
    | _ => []

end Manifest

/-! ## What the stages of the rules do -/

theorem Context.contains_excludeChannels (context : Context) (ids : List String) (id : String) :
    (context.excludeChannels ids).excludedChannels.contains id =
      (context.excludedChannels.contains id || ids.any fun c => sameName c id) := by
  induction ids generalizing context with
  | nil => simp
  | cons first rest ih =>
    rw [excludeChannels_cons, ih, excludeChannel, NameSet.contains_insert, List.any_cons,
      Bool.or_assoc]

namespace ManifestStage

/-- An event that the rules do not drop is kept from the channels that they name. -/
theorem contains_excludeBy {event : Event} {rules : List (Guarded (List String))}
    {context : Context} (hd : (excludeBy event rules context).2.dropped = false) (id : String) :
    (excludeBy event rules context).2.excludedChannels.contains id =
      (context.excludedChannels.contains id ||
        rules.any fun rule => rule.applies event && rule.payload.any fun c => sameName c id) := by
  induction rules generalizing context with
  | nil => simp [excludeBy]
  | cons rule rest ih =>
    unfold excludeBy at hd ⊢
    rw [List.any_cons]
    cases ha : rule.applies event with
    | false =>
      simp only [ha, Bool.false_eq_true, if_false] at hd ⊢
      rw [ih hd, Bool.false_and, Bool.false_or]
    | true =>
      cases he : isEverywhere rule.payload with
      | true => simp [ha, he, Context.drop] at hd
      | false =>
        simp only [ha, he, if_true, Bool.false_eq_true, if_false] at hd ⊢
        rw [ih hd, Context.contains_excludeChannels, Bool.true_and, Bool.or_assoc]

theorem any_excludedChannels (manifest : Manifest) (event : Event) (id : String) :
    ((Guarded.select Effect.excludedChannels? manifest.actions).any fun rule =>
      rule.applies event && rule.payload.any fun c => sameName c id) =
        manifest.keepsFrom event id := by
  rw [Guarded.any_select, Manifest.keepsFrom]
  congr 1
  funext action
  cases action.effect <;> rfl

theorem routesBy_eq_flatMap (rules : List (Guarded (List RouteTarget))) (event : Event) :
    routesBy rules event = rules.flatMap fun rule =>
      if rule.applies event then rule.payload.map fun t => ⟨t.channel, t.argument⟩ else [] := by
  unfold routesBy
  induction rules with
  | nil => rfl
  | cons rule rest ih =>
    rw [List.filter_cons, List.flatMap_cons, ← ih]
    split <;> simp

theorem argumentsFor_routesBy (manifest : Manifest) (event : Event) (id : String) :
    Registry.argumentsFor
      (routesBy (Guarded.select Effect.routeTargets? manifest.actions) event) id =
        manifest.argumentsTo event id := by
  rw [routesBy_eq_flatMap, Guarded.flatMap_select, Registry.argumentsFor, List.filter_flatMap,
    List.map_flatMap, Manifest.argumentsTo]
  congr 1
  funext action
  cases action.effect with
  | route targets =>
    change List.map _ (List.filter _ (if action.applies event then _ else _)) = _
    split
    · simp [List.filter_map, Function.comp_def]
    · rfl
  | _ => rfl

theorem isEmpty_argumentsTo (manifest : Manifest) (event : Event) (id : String) :
    (manifest.argumentsTo event id).isEmpty = !manifest.routesTo event id := by
  rw [Bool.eq_iff_iff, List.isEmpty_iff, Manifest.argumentsTo, List.flatMap_eq_nil_iff,
    Bool.not_eq_true', Manifest.routesTo, List.any_eq_false]
  refine forall₂_congr fun action _ => ?_
  cases action.effect with
  | route targets =>
    cases action.applies event <;> simp
  | _ => simp

end ManifestStage

/-! ## What the way of an event leads to -/

def Outcome.received {κ : Type} (outcome : Outcome κ) (id : String) : List Posted :=
  (outcome.deliveries.filter fun d => sameName d.id id).map fun d => ⟨outcome.event, d.arguments⟩

namespace Processor

variable {κ : Type}

@[simp] theorem dropped_outcome {σ : Type} (registry : Registry κ) (pass : Pass σ) :
    (outcome registry pass).dropped = pass.context.dropped := by
  rw [outcome]
  cases pass.context.dropped <;> simp

@[simp] theorem event_outcome {σ : Type} (registry : Registry κ) (pass : Pass σ) :
    (outcome registry pass).event = pass.event := by
  rw [outcome]
  cases pass.context.dropped <;> simp

theorem throttled_outcome {σ : Type} (registry : Registry κ) (pass : Pass σ) :
    (outcome registry pass).throttled = (pass.context.dropped && pass.context.throttled) := by
  rw [outcome]
  cases pass.context.dropped <;> simp

theorem throttling_outcome {σ : Type} (registry : Registry κ) (pass : Pass σ) :
    (outcome registry pass).throttling = pass.context.throttling := by
  rw [outcome]
  cases pass.context.dropped <;> simp

theorem excludedChannels_outcome {σ : Type} (registry : Registry κ) (pass : Pass σ) :
    (outcome registry pass).excludedChannels = pass.context.excludedChannels.sorted := by
  rw [outcome]
  cases pass.context.dropped <;> simp

theorem routes_outcome {σ : Type} (registry : Registry κ) (pass : Pass σ) :
    (outcome registry pass).routes = if pass.context.dropped then [] else pass.context.routes := by
  rw [outcome]
  cases pass.context.dropped <;> simp

theorem deliveries_outcome {σ : Type} (registry : Registry κ) (pass : Pass σ) :
    (outcome registry pass).deliveries =
      if pass.context.dropped then []
      else registry.dispatch pass.context.routes pass.context.excludedChannels := by
  rw [outcome]
  cases pass.context.dropped <;> simp

/-- Whether a channel is to get an event, if the event is not dropped. Rules that keep events away
see the stamped event, and rules that route them see it after all other stages. -/
def receives (p : Processor HostState κ) (manifest : Manifest) (now : Nat) (event : Event)
    (channel : Channel κ) : Bool :=
  !manifest.keepsFrom (stamp p.session (p.sequence + 1) event) channel.id &&
    !(channel.traits.restricted &&
      HostStage.sendsSensitive (p.passBefore manifest now event .restriction).event) &&
    (channel.traits.isDefault ||
      manifest.routesTo (p.passBefore manifest now event .manifestRoute).event channel.id)

section

variable {p : Processor HostState κ} (hhost : p.host = HostStage.standard)
  (manifest : Manifest) (now : Nat) (event : Event)

include hhost

theorem routes_passAfter
    (hd : (p.passAfter manifest now event .manifestRoute).context.dropped = false) :
    (p.passAfter manifest now event .manifestRoute).context.routes =
      ManifestStage.routesBy (Guarded.select Effect.routeTargets? manifest.actions)
        (p.passBefore manifest now event .manifestRoute).event := by
  have hbefore : (p.passBefore manifest now event .manifestRoute).context.dropped = false :=
    dropped_passBelow hhost manifest now event (Nat.le_succ _) hd
  have hnone : (p.passBefore manifest now event .manifestRoute).context.routes = [] :=
    part_before_place hhost manifest now event (fun pass => pass.context.routes) .manifestRoute
      (fun q hq _ _ pass => (keeps_effect q _ _ pass).routes hq) (Nat.le_refl _)
  rw [passAfter_eq hhost, Priority.stage, ManifestStage.effect_route, hbefore,
    if_neg Bool.false_ne_true, hnone, List.nil_append]

theorem event_passAfter_route :
    (p.passAfter manifest now event .manifestRoute).event =
      (p.passBefore manifest now event .manifestRoute).event := by
  rw [passAfter_eq hhost, Priority.stage, ManifestStage.effect_route]
  split <;> rfl

theorem contains_excludedChannels_exclude
    (hd : (p.passAfter manifest now event .manifestExclude).context.dropped = false)
    (id : String) :
    (p.passAfter manifest now event .manifestExclude).context.excludedChannels.contains id =
      manifest.keepsFrom (stamp p.session (p.sequence + 1) event) id := by
  rw [passAfter_exclude hhost] at hd ⊢
  rw [ManifestStage.contains_excludeBy hd, ManifestStage.any_excludedChannels]
  exact Bool.false_or _

theorem contains_excludedChannels_restriction
    (hd : (p.passBefore manifest now event .restriction).context.dropped = false) (id : String) :
    (p.passAfter manifest now event .restriction).context.excludedChannels.contains id =
      ((p.passBefore manifest now event .restriction).context.excludedChannels.contains id ||
        HostStage.sendsSensitive (p.passBefore manifest now event .restriction).event &&
          p.registry.restrictedIds.any fun c => sameName c id) := by
  rw [passAfter_eq hhost, Priority.stage, HostStage.effect_restriction, hd, Bool.false_or]
  cases HostStage.sendsSensitive (p.passBefore manifest now event .restriction).event with
  | false => simp
  | true => exact Context.contains_excludeChannels _ _ _

/-- At the end an event is kept from the channels that rules name, and from restricted ones if it
had something sensitive to send. -/
theorem contains_excludedChannels
    (hd : (p.passAfter manifest now event .manifestRoute).context.dropped = false) (id : String) :
    (p.passAfter manifest now event .manifestRoute).context.excludedChannels.contains id =
      (manifest.keepsFrom (stamp p.session (p.sequence + 1) event) id ||
        HostStage.sendsSensitive (p.passBefore manifest now event .restriction).event &&
          p.registry.restrictedIds.any fun c => sameName c id) := by
  have hexclude : (p.passAfter manifest now event .manifestExclude).context.dropped = false :=
    dropped_passBelow hhost manifest now event (by decide) hd
  have hrestriction : (p.passBefore manifest now event .restriction).context.dropped = false :=
    dropped_passBelow hhost manifest now event (by decide) hd
  have hfinal : (p.passAfter manifest now event .manifestRoute).context.excludedChannels =
      (p.passAfter manifest now event .restriction).context.excludedChannels :=
    excludedChannels_passBelow_of_no_change hhost manifest now event (by decide) (by decide)
  have hmiddle : (p.passBefore manifest now event .restriction).context.excludedChannels =
      (p.passAfter manifest now event .manifestExclude).context.excludedChannels :=
    excludedChannels_passBelow_of_no_change hhost manifest now event (by decide) (by decide)
  rw [hfinal, contains_excludedChannels_restriction hhost manifest now event hrestriction, hmiddle,
    contains_excludedChannels_exclude hhost manifest now event hexclude]

/-! ## Deliveries -/

theorem isReached_eq_receives (hdistinct : Registry.Distinct p.registry.channels)
    (hd : (p.passAfter manifest now event .manifestRoute).context.dropped = false)
    {channel : Channel κ} (hc : channel ∈ p.registry.channels) :
    Registry.isReached (p.passAfter manifest now event .manifestRoute).context.routes
        (p.passAfter manifest now event .manifestRoute).context.excludedChannels channel =
      p.receives manifest now event channel := by
  rw [Registry.isReached, contains_excludedChannels hhost manifest now event hd,
    routes_passAfter hhost manifest now event hd, ManifestStage.argumentsFor_routesBy,
    ManifestStage.isEmpty_argumentsTo, hdistinct.any_restrictedIds hc, receives, Bool.not_or,
    Bool.not_not, Bool.and_comm channel.traits.restricted]

theorem deliveries_of_not_dropped (hdistinct : Registry.Distinct p.registry.channels)
    (hd : (p.process manifest now event).1.dropped = false) :
    (p.process manifest now event).1.deliveries =
      (p.registry.channels.filter (p.receives manifest now event)).map fun c =>
        ⟨c.id, c.sink, manifest.argumentsTo
          (p.passBefore manifest now event .manifestRoute).event c.id⟩ := by
  rw [process_fst, dropped_outcome] at hd
  rw [process_fst, deliveries_outcome, hd, if_neg Bool.false_ne_true, Registry.dispatch_eq,
    List.filter_congr fun c hc => isReached_eq_receives hhost manifest now event hdistinct hd hc]
  refine List.map_congr_left fun c _ => ?_
  rw [Registry.deliveryTo, routes_passAfter hhost manifest now event hd,
    ManifestStage.argumentsFor_routesBy]

theorem received_of_not_dropped (hdistinct : Registry.Distinct p.registry.channels)
    (hd : (p.process manifest now event).1.dropped = false) {channel : Channel κ}
    (hc : channel ∈ p.registry.channels) :
    (p.process manifest now event).1.received channel.id =
      if p.receives manifest now event channel then
        [⟨(p.process manifest now event).1.event, manifest.argumentsTo
          (p.passBefore manifest now event .manifestRoute).event channel.id⟩]
      else [] := by
  have hown : (p.registry.channels.filter (p.receives manifest now event)).filter
      (fun c => sameName c.id channel.id) = [channel].filter (p.receives manifest now event) := by
    rw [← hdistinct.filter_sameName hc, List.filter_filter, List.filter_filter]
    simp only [Bool.and_comm]
  rw [Outcome.received, deliveries_of_not_dropped hhost manifest now event hdistinct hd,
    List.filter_map, List.map_map]
  change ((p.registry.channels.filter (p.receives manifest now event)).filter
    fun c => sameName c.id channel.id).map _ = _
  rw [hown, List.filter_cons, List.filter_nil]
  cases p.receives manifest now event channel <;> rfl

/-- Delivery is what the manifest and the registry say. A dropped event reaches no channel; any
other reaches each channel that is to get it once, with the arguments of the rules that route it. -/
theorem process_delivers_exactly (hreg : p.registry.Reachable) :
    let outcome := (p.process manifest now event).1
    let final := (p.passBefore manifest now event .manifestRoute).event
    (outcome.dropped = true →
      outcome.routes = [] ∧ outcome.delivered = [] ∧ ∀ id, outcome.received id = []) ∧
    (outcome.dropped = false →
      outcome.event = final ∧
      outcome.delivered =
        (p.registry.channels.filter (p.receives manifest now event)).map Channel.id ∧
      outcome.deliveries =
        (p.registry.channels.filter (p.receives manifest now event)).map
          (fun c => ⟨c.id, c.sink, manifest.argumentsTo final c.id⟩) ∧
      ∀ c ∈ p.registry.channels, outcome.received c.id =
        if p.receives manifest now event c then [⟨final, manifest.argumentsTo final c.id⟩]
        else []) := by
  intro outcome final
  have hevent : outcome.event = final :=
    (congrArg Outcome.event (p.process_fst manifest now event)).trans
      ((event_outcome _ _).trans (event_passAfter_route hhost manifest now event))
  constructor
  · intro hd
    have hdrop : (p.passAfter manifest now event .manifestRoute).context.dropped = true := by
      rw [← dropped_outcome p.registry, ← process_fst]
      exact hd
    have hnone : outcome.deliveries = [] := by
      rw [show outcome = _ from p.process_fst manifest now event, deliveries_outcome, if_pos hdrop]
    refine ⟨?_, ?_, fun id => ?_⟩
    · rw [show outcome = _ from p.process_fst manifest now event, routes_outcome, if_pos hdrop]
    · rw [Outcome.delivered, hnone, List.map_nil]
    · rw [Outcome.received, hnone, List.filter_nil, List.map_nil]
  · intro hd
    have hdeliveries := deliveries_of_not_dropped hhost manifest now event hreg.distinct hd
    refine ⟨hevent, ?_, hdeliveries, fun c hc => ?_⟩
    · rw [Outcome.delivered, hdeliveries, List.map_map]
      rfl
    · rw [received_of_not_dropped hhost manifest now event hreg.distinct hd hc,
        show (p.process manifest now event).1.event = final from hevent]

end

end Processor

/-! ## A page view -/

namespace Sample

def pageView : Event :=
  ⟨"1", "page/view", 0, .normal, .trace, none, false, .empty, .empty, .empty⟩

/-- A channel that gets every event, and one that gets what is routed to it. -/
def registry : Registry Nat :=
  (((Registry.create []).register (.create "s") ⟨"Audit", .default⟩ 0).2.register (.create "s")
    ⟨"Ads", .plain⟩ 1).2

theorem reachable_registry : registry.Reachable :=
  .register _ _ _ (.register _ _ _ (.create []))

def manifest : Manifest :=
  { Manifest.bundled with actions :=
      [⟨none, .excludeFrom ["AUDIT"]⟩, ⟨none, .route [⟨"ads", .property "Page"⟩]⟩] }

end Sample

/-- The page view goes to the routed channel alone, as this is the one that is to get it. -/
theorem pageView_delivered_to_ads :
    let p := Processor.standard (.create "s") Sample.registry 0
    let outcome := (p.process Sample.manifest 0 Sample.pageView).1
    p.host = HostStage.standard ∧ p.registry.Reachable ∧
      outcome.dropped = false ∧ outcome.delivered = ["Ads"] ∧
      (p.registry.channels.filter (p.receives Sample.manifest 0 Sample.pageView)).map
        Channel.id = ["Ads"] := by
  intro p outcome
  have hhost : p.host = HostStage.standard := Processor.host_standard _ _ _
  have hrun : outcome.dropped = false ∧ outcome.delivered = ["Ads"] := by
    rw [show outcome = _ from Processor.process_fst_eq_foldl hhost _ _ _]
    decide
  have hspec := Processor.process_delivers_exactly hhost Sample.manifest 0 Sample.pageView
    Sample.reachable_registry
  exact ⟨hhost, Sample.reachable_registry, hrun.1, hrun.2,
    (hspec.2 hrun.1).2.1.symm.trans hrun.2⟩

end EventGate
