import EventGate.Proofs.HoldingBack
import EventGate.Proofs.OptOut

/-! # Passes that are alike

A set of names has an order that no operation shows. Events, and events on their way, that differ in
such orders only are alike, and stay alike in every stage.
-/

namespace EventGate

open Stage Text

/-! ## Sets of names -/

namespace NameSet

def Same (a b : NameSet) : Prop :=
  ∀ key, key ∈ a.folded ↔ key ∈ b.folded

namespace Same

variable {a b c : NameSet}

theorem refl (a : NameSet) : a.Same a := fun _ => Iff.rfl

theorem trans (hab : a.Same b) (hbc : b.Same c) : a.Same c := fun key => (hab key).trans (hbc key)

theorem contains (h : a.Same b) (name : String) : a.contains name = b.contains name := by
  rw [Bool.eq_iff_iff, contains_iff, contains_iff]
  exact h (fold name)

theorem perm (h : a.Same b) : a.folded.Perm b.folded :=
  (List.perm_ext_iff_of_nodup a.nodup b.nodup).mpr h

theorem insert (h : a.Same b) (name : String) : (a.insert name).Same (b.insert name) := by
  intro key
  rw [mem_folded_insert, mem_folded_insert, h key]

theorem sorted (h : a.Same b) : a.sorted = b.sorted := by
  have hperm : a.sorted.Perm b.sorted :=
    (List.mergeSort_perm _ _).trans (h.perm.trans (List.mergeSort_perm _ _).symm)
  have hsorted (set : NameSet) : set.sorted.Pairwise fun x y => decide (x ≤ y) = true := by
    refine List.pairwise_mergeSort (fun x y z hxy hyz => ?_) (fun x y => ?_) set.folded
    · exact decide_eq_true (String.le_trans (of_decide_eq_true hxy) (of_decide_eq_true hyz))
    · rw [Bool.or_eq_true, decide_eq_true_iff, decide_eq_true_iff]
      exact String.le_total x y
  exact hperm.eq_of_pairwise
    (fun x y _ _ hxy hyx => String.le_antisymm (of_decide_eq_true hxy) (of_decide_eq_true hyx))
    (hsorted a) (hsorted b)

end Same

end NameSet

/-! ## Events -/

/-- Events that differ at most in the order in which names were held back. -/
structure Event.Alike (a b : Event) : Prop where
  core : b.core = a.core
  properties : b.properties = a.properties
  excluded : a.excluded.Same b.excluded

namespace Event.Alike

variable {a b c : Event}

theorem refl (event : Event) : event.Alike event := ⟨rfl, rfl, .refl _⟩

theorem trans (hab : a.Alike b) (hbc : b.Alike c) : a.Alike c :=
  ⟨hbc.core.trans hab.core, hbc.properties.trans hab.properties, hab.excluded.trans hbc.excluded⟩

theorem part {α : Type} (h : a.Alike b) (part : Event → α)
    (hpart : ∀ e : Event, part e.core = part e) : part b = part a := by
  rw [← hpart, h.core, hpart]

theorem isExcluded (h : a.Alike b) (name : String) : b.isExcluded name = a.isExcluded name :=
  (h.excluded.contains name).symm

theorem sent (h : a.Alike b) : b.sent = a.sent := by
  unfold Event.sent
  rw [h.properties]
  exact List.filter_congr fun e _ => by rw [h.isExcluded]

theorem with_properties (h : a.Alike b) (bag : Bag) :
    Event.Alike { a with properties := bag } { b with properties := bag } :=
  ⟨h.core, rfl, h.excluded⟩

theorem put (h : a.Alike b) (name : String) (value : PropertyValue) :
    (a.put name value).Alike (b.put name value) := by
  rw [Event.put, Event.put, h.properties]
  exact h.with_properties _

theorem excludeAll (h : a.Alike b) (names : List String) :
    (a.excludeAll names).Alike (b.excludeAll names) := by
  refine ⟨?_, ?_, fun key => ?_⟩
  · rw [core_excludeAll, core_excludeAll, h.core]
  · rw [properties_excludeAll, properties_excludeAll, h.properties]
  · rw [mem_excluded_excludeAll, mem_excluded_excludeAll, h.excluded key, h.properties]

theorem readmitAll (h : a.Alike b) (names : List String) :
    (a.readmitAll names).Alike (b.readmitAll names) := by
  refine ⟨?_, ?_, fun key => ?_⟩
  · rw [core_readmitAll, core_readmitAll, h.core]
  · rw [properties_readmitAll, properties_readmitAll, h.properties]
  · rw [mem_excluded_readmitAll, mem_excluded_readmitAll, h.excluded key]

theorem filtered (h : a.Alike b) (rules : OptOutRules) :
    (ManifestStage.filtered rules a).Alike (ManifestStage.filtered rules b) := by
  rw [ManifestStage.filtered_eq, ManifestStage.filtered_eq,
    ManifestStage.namesBy_congr h.properties, ManifestStage.namesBy_congr h.properties]
  exact (h.readmitAll _).excludeAll _

theorem hashOne (h : a.Alike b) (hash : String → String) (attach : Bool) (n m : Nat)
    (name : String) :
    (Personal.hashOne hash attach (a, n) name).1.Alike
      (Personal.hashOne hash attach (b, m) name).1 := by
  unfold Personal.hashOne
  dsimp only
  rw [h.properties, h.isExcluded]
  split
  · exact h
  · split
    · exact h.with_properties _
    · split
      · exact (h.put _ _).put _ _
      · exact h.put _ _

theorem hashAllWith (h : a.Alike b) (hash : String → String) (session : Session) :
    (Personal.hashAllWith hash session a).1.Alike (Personal.hashAllWith hash session b).1 := by
  have hnames : Personal.names b = Personal.names a := by
    unfold Personal.names
    rw [h.properties]
  rw [Personal.hashAllWith, Personal.hashAllWith, hnames]
  exact List.foldl_rel (r := fun s t : Event × Nat => s.1.Alike t.1) h
    fun name _ s t hst => hst.hashOne hash _ s.2 t.2 name

theorem fingerprint (h : a.Alike b) : HostStage.fingerprint b = HostStage.fingerprint a := by
  unfold HostStage.fingerprint
  rw [h.sent, h.part Event.name fun _ => rfl]

theorem unfriendly (h : a.Alike b) : HostStage.unfriendly b = HostStage.unfriendly a := by
  unfold HostStage.unfriendly
  rw [h.properties, h.part Event.friendlyNames fun _ => rfl]

theorem emptyNames (h : a.Alike b) : HostStage.emptyNames b = HostStage.emptyNames a := by
  unfold HostStage.emptyNames
  rw [h.sent]

theorem sendsSensitive (h : a.Alike b) :
    HostStage.sendsSensitive b = HostStage.sendsSensitive a := by
  unfold HostStage.sendsSensitive
  rw [h.sent]

end Event.Alike

namespace ManifestStage

variable {a b : Event}

theorem names_congr (h : a.Alike b) (rule : Guarded NameSet) : names b rule = names a rule := by
  rw [names, names, h.part Event.name fun _ => rfl, rule.applies_congr h.properties]

theorem verdict_congr (h : a.Alike b) (rules : OptOutRules) (given : OptOutVerdict) :
    verdict rules b given = verdict rules a given := by
  have hnames : names b = names a := funext (names_congr h)
  rw [verdict, verdict, hnames]

theorem decision_congr (h : a.Alike b) (rules : List (Guarded ThrottlingDecision))
    (given : ThrottlingDecision) : decision rules b given = decision rules a given := by
  simp only [decision, Guarded.applies_congr h.properties]

theorem routesBy_congr (h : a.Alike b) (rules : List (Guarded (List RouteTarget))) :
    routesBy rules b = routesBy rules a := by
  simp only [routesBy, Guarded.applies_congr h.properties]

theorem markedBag_congr (h : a.Alike b) (rules : List (Guarded (List String))) :
    markedBag rules b = markedBag rules a := by
  rw [markedBag, markedBag, namesBy_congr h.properties, h.properties]

end ManifestStage

/-! ## Records -/

/-- Records that differ at most in the order in which channels were excluded, in parts of the
manifest that no stage looks at, and, once the event is dropped, in the excluded channels. -/
structure Context.Alike (a b : Context) : Prop where
  dropped : b.dropped = a.dropped
  throttled : b.throttled = a.throttled
  throttling : b.throttling = a.throttling
  optOut : b.optOut = a.optOut
  routes : b.routes = a.routes
  limit : b.manifest.throttling = a.manifest.throttling
  excludedChannels : a.dropped = false → a.excludedChannels.Same b.excludedChannels

namespace Context.Alike

variable {a b c : Context}

theorem refl (context : Context) : context.Alike context :=
  ⟨rfl, rfl, rfl, rfl, rfl, rfl, fun _ => .refl _⟩

theorem trans (hab : a.Alike b) (hbc : b.Alike c) : a.Alike c where
  dropped := hbc.dropped.trans hab.dropped
  throttled := hbc.throttled.trans hab.throttled
  throttling := hbc.throttling.trans hab.throttling
  optOut := hbc.optOut.trans hab.optOut
  routes := hbc.routes.trans hab.routes
  limit := hbc.limit.trans hab.limit
  excludedChannels hd :=
    (hab.excludedChannels hd).trans (hbc.excludedChannels (hab.dropped.trans hd))

theorem drop (h : a.Alike b) : a.drop.Alike b.drop :=
  { h with dropped := rfl, excludedChannels := fun hd => absurd hd Bool.noConfusion }

end Context.Alike

theorem Context.mem_excludeChannels {context : Context} {ids : List String} {key : String} :
    key ∈ (context.excludeChannels ids).excludedChannels.folded ↔
      key ∈ context.excludedChannels.folded ∨ ∃ id ∈ ids, key = fold id := by
  induction ids generalizing context with
  | nil => simp
  | cons first rest ih =>
    rw [excludeChannels_cons, ih, excludeChannel, NameSet.mem_folded_insert, or_assoc]
    simp only [List.mem_cons, exists_eq_or_imp]

theorem Context.Alike.excludeChannels {a b : Context} (h : a.Alike b) (ids : List String) :
    (a.excludeChannels ids).Alike (b.excludeChannels ids) := by
  rw [excludeChannels_eq a, excludeChannels_eq b]
  refine { h with excludedChannels := fun hd key => ?_ }
  rw [mem_excludeChannels, mem_excludeChannels, h.excludedChannels hd key]

namespace ManifestStage

/-- An event that the rules do not drop is kept from the channels of the rules that apply. -/
theorem mem_excludeBy {event : Event} {rules : List (Guarded (List String))} {context : Context}
    (hd : (excludeBy event rules context).2.dropped = false) {key : String} :
    key ∈ (excludeBy event rules context).2.excludedChannels.folded ↔
      key ∈ context.excludedChannels.folded ∨
        ∃ rule ∈ rules, rule.applies event = true ∧ ∃ id ∈ rule.payload, key = fold id := by
  induction rules generalizing context with
  | nil => simp [excludeBy]
  | cons rule rest ih =>
    unfold excludeBy at hd ⊢
    simp only [List.mem_cons, exists_eq_or_imp]
    cases ha : rule.applies event with
    | false =>
      simp only [ha, Bool.false_eq_true, if_false] at hd
      simp only [Bool.false_eq_true, if_false, false_and, false_or]
      exact ih hd
    | true =>
      cases he : isEverywhere rule.payload with
      | true => simp [ha, he, Context.drop] at hd
      | false =>
        simp only [ha, he, if_true, Bool.false_eq_true, if_false] at hd
        simp only [if_true, Bool.false_eq_true, if_false, true_and]
        rw [ih hd, Context.mem_excludeChannels, or_assoc]

theorem alike_excludeBy {a b : Context} (h : a.Alike b) {event other : Event}
    {rules others : List (Guarded (List String))}
    (hdrop : (others.any fun rule => rule.applies other && isEverywhere rule.payload) =
      rules.any fun rule => rule.applies event && isEverywhere rule.payload)
    (hkeep : ∀ key,
      (∃ rule ∈ rules, rule.applies event = true ∧ ∃ id ∈ rule.payload, key = fold id) ↔
        ∃ rule ∈ others, rule.applies other = true ∧ ∃ id ∈ rule.payload, key = fold id) :
    (excludeBy event rules a).2.Alike (excludeBy other others b).2 := by
  have hdropped : (excludeBy other others b).2.dropped = (excludeBy event rules a).2.dropped := by
    rw [dropped_excludeBy, dropped_excludeBy, h.dropped, hdrop]
  have ha := excludeBy_eq event rules a
  have hb := excludeBy_eq other others b
  refine ⟨hdropped, ?_, ?_, ?_, ?_, ?_, fun hd key => ?_⟩
  · rw [ha, hb]
    exact h.throttled
  · rw [ha, hb]
    exact h.throttling
  · rw [ha, hb]
    exact h.optOut
  · rw [ha, hb]
    exact h.routes
  · rw [ha, hb]
    exact h.limit
  · have hstart : a.dropped = false := by
      rw [dropped_excludeBy, Bool.or_eq_false_iff] at hd
      exact hd.1
    rw [mem_excludeBy hd, mem_excludeBy (hdropped.trans hd), h.excludedChannels hstart key,
      hkeep key]

end ManifestStage

/-! ## Passes -/

/-- Events on their way that are alike, with alike records, on the same state. -/
structure Pass.Alike (a b : Pass HostState) : Prop where
  event : a.event.Alike b.event
  context : a.context.Alike b.context
  state : b.state = a.state

namespace Pass.Alike

variable {a b c : Pass HostState}

theorem refl (pass : Pass HostState) : pass.Alike pass :=
  ⟨.refl _, .refl _, rfl⟩

theorem trans (hab : a.Alike b) (hbc : b.Alike c) : a.Alike c :=
  ⟨hab.event.trans hbc.event, hab.context.trans hbc.context, hbc.state.trans hab.state⟩

theorem counted (h : a.Alike b) (around : Surroundings) :
    HostStage.counted around b = HostStage.counted around a := by
  unfold HostStage.counted
  rw [h.state, h.context.limit]

theorem effect (h : a.Alike b) (place : Priority) (actions : List Action)
    (around : Surroundings) :
    ((place.stage actions).effect around a).Alike ((place.stage actions).effect around b) := by
  have hdropped := h.context.dropped
  cases hd : a.context.dropped with
  | true =>
    rw [(place.sound_stage actions).effect_of_dropped hd,
      (place.sound_stage actions).effect_of_dropped (hdropped.trans hd)]
    exact h
  | false =>
    rw [hd] at hdropped
    cases place with
    | manifestExclude =>
      rw [Priority.stage, ManifestStage.effect_exclude, ManifestStage.effect_exclude, hd, hdropped]
      refine ⟨h.event, ManifestStage.alike_excludeBy h.context ?_ fun key => ?_, h.state⟩
      · simp only [Guarded.applies_congr h.event.properties]
      · simp only [Guarded.applies_congr h.event.properties]
    | customOptOut =>
      rw [Priority.stage, HostStage.effect_customOptOut, HostStage.effect_customOptOut, hd,
        hdropped, h.event.unfriendly, h.event.part Event.friendly fun _ => rfl]
      split
      · exact h
      · split
        · exact ⟨h.event.excludeAll _, { h.context with optOut := rfl }, h.state⟩
        · exact ⟨h.event, { h.context with optOut := rfl }, h.state⟩
    | manifestOptOut =>
      rw [Priority.stage, ManifestStage.effect_optOut, ManifestStage.effect_optOut, hd, hdropped,
        ManifestStage.verdict_congr h.event, h.context.optOut]
      split
      · exact h
      · split
        · exact ⟨h.event.filtered _, { h.context with optOut := rfl }, h.state⟩
        · exact ⟨h.event, { h.context.drop with optOut := rfl }, h.state⟩
    | manifestThrottling =>
      rw [Priority.stage, ManifestStage.effect_throttling, ManifestStage.effect_throttling, hd,
        hdropped, ManifestStage.decision_congr h.event, h.context.throttling]
      exact ⟨h.event, { h.context with throttling := rfl }, h.state⟩
    | manifestPersonal =>
      rw [Priority.stage, ManifestStage.effect_markPersonal, ManifestStage.effect_markPersonal, hd,
        hdropped, ManifestStage.markedBag_congr h.event]
      exact ⟨h.event.with_properties _, h.context, h.state⟩
    | metric =>
      rw [Priority.stage, HostStage.effect_metric, HostStage.effect_metric, hd, hdropped,
        h.event.part Event.kind fun _ => rfl, h.event.part HostStage.measurement? fun _ => rfl]
      split
      · exact h
      · split
        · exact ⟨h.event, h.context.drop, h.state⟩
        · exact ⟨(h.event.put _ _).put _ _, h.context, h.state⟩
    | setting =>
      rw [Priority.stage, HostStage.effect_setting, HostStage.effect_setting, hd, hdropped,
        h.event.part Event.kind fun _ => rfl, h.event.fingerprint, h.state]
      split
      · exact h
      · dsimp only
        split
        · exact ⟨h.event, h.context, rfl⟩
        · exact ⟨h.event, h.context.drop, rfl⟩
    | personal =>
      rw [Priority.stage, HostStage.effect_personal, HostStage.effect_personal, hd, hdropped]
      exact ⟨h.event.hashAllWith _ _, h.context, h.state⟩
    | restriction =>
      rw [Priority.stage, HostStage.effect_restriction, HostStage.effect_restriction, hd, hdropped,
        h.event.sendsSensitive]
      split
      · exact h
      · exact ⟨h.event, h.context.excludeChannels _, h.state⟩
    | structured =>
      rw [Priority.stage, HostStage.effect_structured, HostStage.effect_structured, hd, hdropped,
        h.event.properties]
      exact ⟨h.event.with_properties _, h.context, h.state⟩
    | suppressEmpty =>
      rw [Priority.stage, HostStage.effect_suppressEmpty, HostStage.effect_suppressEmpty, hd,
        hdropped, h.event.emptyNames]
      exact ⟨h.event.excludeAll _, h.context, h.state⟩
    | generalThrottling =>
      rw [Priority.stage, HostStage.effect_throttling, HostStage.effect_throttling, hd, hdropped,
        h.counted, h.context.throttling, h.state]
      split
      · exact h
      · dsimp only
        split
        · exact ⟨h.event, h.context, rfl⟩
        · exact ⟨h.event, { h.context.drop with throttled := rfl }, rfl⟩
    | manifestRoute =>
      rw [Priority.stage, ManifestStage.effect_route, ManifestStage.effect_route, hd, hdropped,
        ManifestStage.routesBy_congr h.event, h.context.routes]
      exact ⟨h.event, { h.context with routes := rfl }, h.state⟩

end Pass.Alike

end EventGate
