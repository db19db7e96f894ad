import EventGate.Proofs.Delivery

/-! # Opted-out sessions

The verdict on an event of an opted-out session. The host speaks first, and its word counts unless
the rules say otherwise. A rule that denies the event overrides all others, wherever it stands.
-/

namespace EventGate

open Stage Text

theorem NameSet.contains_ofList (names : List String) (name : String) :
    (ofList names).contains name = names.any fun n => sameName n name := by
  have hfold : ∀ set : NameSet, (names.foldl insert set).contains name =
      (set.contains name || names.any fun n => sameName n name) := by
    induction names with
    | nil => simp
    | cons first rest ih =>
      intro set
      rw [List.foldl_cons, ih, contains_insert, List.any_cons, Bool.or_assoc]
  exact (hfold empty).trans (Bool.false_or _)

/-! ## What the rules say -/

namespace Manifest

def excludesEverywhere (manifest : Manifest) (event : Event) : Bool :=
  manifest.actions.any fun action =>
    match action.effect with
    | .excludeFrom channels => action.applies event && ManifestStage.isEverywhere channels
    | _ => false

def deniesEvent (manifest : Manifest) (event : Event) : Bool :=
  manifest.actions.any fun action =>
    match action.effect with
    | .denyEvents names => action.applies event && names.any fun n => sameName n event.name
    | _ => false

def allowsEvent (manifest : Manifest) (event : Event) : Bool :=
  manifest.actions.any fun action =>
    match action.effect with
    | .allowEvents names => action.applies event && names.any fun n => sameName n event.name
    | _ => false

theorem deniesEvent_congr (manifest : Manifest) {a b : Event} (hname : a.name = b.name)
    (hprops : a.properties = b.properties) : manifest.deniesEvent a = manifest.deniesEvent b := by
  simp only [deniesEvent, hname, Action.applies_congr hprops]

theorem allowsEvent_congr (manifest : Manifest) {a b : Event} (hname : a.name = b.name)
    (hprops : a.properties = b.properties) : manifest.allowsEvent a = manifest.allowsEvent b := by
  simp only [allowsEvent, hname, Action.applies_congr hprops]

end Manifest

namespace ManifestStage

theorem dropped_excludeBy (event : Event) (rules : List (Guarded (List String)))
    (context : Context) :
    (excludeBy event rules context).2.dropped =
      (context.dropped || rules.any fun rule =>
        rule.applies event && isEverywhere rule.payload) := by
  induction rules generalizing context with
  | nil => simp [excludeBy]
  | cons rule rest ih =>
    unfold excludeBy
    rw [List.any_cons]
    cases ha : rule.applies event with
    | false => simp [ih]
    | true => cases he : isEverywhere rule.payload <;> simp [ih, Context.drop]

theorem any_isEverywhere (manifest : Manifest) (event : Event) :
    ((Guarded.select Effect.excludedChannels? manifest.actions).any fun rule =>
      rule.applies event && isEverywhere rule.payload) = manifest.excludesEverywhere event := by
  rw [Guarded.any_select, Manifest.excludesEverywhere]
  congr 1
  funext action
  cases action.effect <;> rfl

theorem any_deniedEvents (manifest : Manifest) (event : Event) :
    (Manifest.optOutRules manifest.actions).deniedEvents.any (names event) =
      manifest.deniesEvent event := by
  rw [Manifest.optOutRules, Guarded.any_select, Manifest.deniesEvent]
  congr 1
  funext action
  cases action.effect with
  | denyEvents given =>
    change (NameSet.contains (.ofList given) event.name && action.applies event) = _
    rw [NameSet.contains_ofList, Bool.and_comm]
  | _ => rfl

theorem any_allowedEvents (manifest : Manifest) (event : Event) :
    (Manifest.optOutRules manifest.actions).allowedEvents.any (names event) =
      manifest.allowsEvent event := by
  rw [Manifest.optOutRules, Guarded.any_select, Manifest.allowsEvent]
  congr 1
  funext action
  cases action.effect with
  | allowEvents given =>
    change (NameSet.contains (.ofList given) event.name && action.applies event) = _
    rw [NameSet.contains_ofList, Bool.and_comm]
  | _ => rfl

/-- The verdict is to allow the event if no rule denies it, and a rule or the host allows it. -/
theorem verdict_eq_allowed_iff (manifest : Manifest) (event : Event) (given : OptOutVerdict) :
    verdict (Manifest.optOutRules manifest.actions) event given = .allowed ↔
      manifest.deniesEvent event = false ∧
        (given = .allowed ∨ manifest.allowsEvent event = true) := by
  rw [verdict, any_deniedEvents, any_allowedEvents]
  cases manifest.deniesEvent event <;> cases manifest.allowsEvent event <;> simp

end ManifestStage

namespace Processor

variable {κ : Type} {p : Processor HostState κ}

/-! ## The end of the way -/

section

variable (hhost : p.host = HostStage.standard) (manifest : Manifest) (now : Nat) (event : Event)

include hhost

/-- An event that is dropped at a place is dropped, goes to no channel, and meets no stage of a
later place. -/
theorem stopped_of_dropped_passAfter {place : Priority}
    (hd : (p.passAfter manifest now event place).context.dropped = true) :
    (p.process manifest now event).1.dropped = true ∧
      (p.process manifest now event).1.deliveries = [] ∧
      ∀ s ∈ ran (p.surroundings now) (p.stages manifest) (p.entry manifest event),
        s.priority.value ≤ place.value := by
  have hfinal : (p.passAfter manifest now event .manifestRoute).context.dropped = true := by
    cases hend : (p.passAfter manifest now event .manifestRoute).context.dropped with
    | true => rfl
    | false =>
      have hle : place.value + 1 ≤ Priority.manifestRoute.value + 1 :=
        Nat.succ_le_succ place.value_le
      rw [passAfter, dropped_passBelow hhost manifest now event hle hend] at hd
      exact absurd hd Bool.false_ne_true
  refine ⟨?_, ?_, fun s hs => ?_⟩
  · rw [process_fst, dropped_outcome, hfinal]
  · rw [process_fst, deliveries_outcome, if_pos hfinal]
  · rw [(ordered_stages hhost manifest).eq_below_append (place.value + 1),
      ran_append_of_dropped
        (fun s hm => sound_stages hhost manifest (List.mem_filter.mp hm).1) rfl hd] at hs
    have hmem := (ran_sublist _ _ _).subset hs
    exact Nat.le_of_lt_succ (of_decide_eq_true (List.mem_filter.mp hmem).2)

/-! ## The verdict -/

theorem dropped_passAfter_exclude :
    (p.passAfter manifest now event .manifestExclude).context.dropped =
      manifest.excludesEverywhere (stamp p.session (p.sequence + 1) event) := by
  rw [passAfter_exclude hhost, ManifestStage.dropped_excludeBy, ManifestStage.any_isEverywhere]
  exact Bool.false_or _

theorem optOut_passBefore (hout : p.session.optedOut = true)
    (hkept : manifest.excludesEverywhere (stamp p.session (p.sequence + 1) event) = false) :
    (p.passBefore manifest now event .manifestOptOut).context.dropped = false ∧
      (p.passBefore manifest now event .manifestOptOut).context.optOut =
        if event.friendly then .allowed else .denied := by
  have hd : (p.passBefore manifest now event .customOptOut).context.dropped = false :=
    (dropped_passAfter_exclude hhost manifest now event).trans hkept
  have hfriendly : (p.passBefore manifest now event .customOptOut).event.friendly =
      event.friendly :=
    part_passBelow hhost manifest now event Event.friendly (fun _ => rfl) _
  have hown : p.passBefore manifest now event .manifestOptOut =
      p.passAfter manifest now event .customOptOut := rfl
  have hsession : (p.surroundings now).session.optedOut = true := hout
  rw [hown, passAfter_eq hhost, Priority.stage, HostStage.effect_customOptOut, hd, hsession,
    if_neg (by decide), hfriendly]
  cases event.friendly with
  | true => exact ⟨hd, rfl⟩
  | false => exact ⟨hd, rfl⟩

theorem dropped_passAfter_optOut (hout : p.session.optedOut = true)
    (hkept : manifest.excludesEverywhere (stamp p.session (p.sequence + 1) event) = false) :
    (p.passAfter manifest now event .manifestOptOut).context.dropped = false ↔
      manifest.deniesEvent (stamp p.session (p.sequence + 1) event) = false ∧
        (event.friendly = true ∨
          manifest.allowsEvent (stamp p.session (p.sequence + 1) event) = true) := by
  obtain ⟨hd, hgiven⟩ := optOut_passBefore hhost manifest now event hout hkept
  have hname : (p.passBefore manifest now event .manifestOptOut).event.name =
      (stamp p.session (p.sequence + 1) event).name :=
    part_passBelow hhost manifest now event Event.name (fun _ => rfl) _
  have hprops : (p.passBefore manifest now event .manifestOptOut).event.properties =
      (stamp p.session (p.sequence + 1) event).properties :=
    properties_passBelow hhost manifest now event (by decide)
  have hpasses : (p.passAfter manifest now event .manifestOptOut).context.dropped = false ↔
      ManifestStage.verdict (Manifest.optOutRules manifest.actions)
        (p.passBefore manifest now event .manifestOptOut).event
        (p.passBefore manifest now event .manifestOptOut).context.optOut = .allowed := by
    have hsession : (p.surroundings now).session.optedOut = true := hout
    rw [passAfter_eq hhost, Priority.stage, ManifestStage.effect_optOut, hd, hsession,
      if_neg (by decide)]
    split
    next h => exact iff_of_true hd h
    next h => exact iff_of_false (by simp [ManifestStage.denied]) h
  have hword : (if event.friendly then OptOutVerdict.allowed else .denied) = .allowed ↔
      event.friendly = true := by
    cases event.friendly <;> decide
  rw [hpasses, ManifestStage.verdict_eq_allowed_iff, manifest.deniesEvent_congr hname hprops,
    manifest.allowsEvent_congr hname hprops, hgiven, hword]

theorem optOut_idle (hin : p.session.optedOut = false) {place : Priority}
    (hplace : place = .customOptOut ∨ place = .manifestOptOut) :
    p.passAfter manifest now event place = p.passBefore manifest now event place := by
  have hsession : (p.surroundings now).session.optedOut = false := hin
  have hskip (pass : Pass HostState) :
      (pass.context.dropped || !(p.surroundings now).session.optedOut) = true := by
    rw [hsession, Bool.not_false, Bool.or_true]
  rw [passAfter_eq hhost]
  rcases hplace with rfl | rfl
  · rw [Priority.stage, HostStage.effect_customOptOut, if_pos (hskip _)]
  · rw [Priority.stage, ManifestStage.effect_optOut, if_pos (hskip _)]

/-- Up to the manifest's word on opted-out sessions, an event is dropped because a rule keeps it
away from all channels, or because the session is opted out and the event does not pass. -/
theorem dropped_passAfter_optOut_eq :
    (p.passAfter manifest now event .manifestOptOut).context.dropped =
      (manifest.excludesEverywhere (stamp p.session (p.sequence + 1) event) ||
        p.session.optedOut &&
          (manifest.deniesEvent (stamp p.session (p.sequence + 1) event) ||
            !event.friendly &&
              !manifest.allowsEvent (stamp p.session (p.sequence + 1) event))) := by
  cases hkept : manifest.excludesEverywhere (stamp p.session (p.sequence + 1) event) with
  | true =>
    cases hd : (p.passAfter manifest now event .manifestOptOut).context.dropped with
    | true => rfl
    | false =>
      have hbefore : (p.passAfter manifest now event .manifestExclude).context.dropped = false :=
        dropped_passBelow hhost manifest now event (by decide) hd
      rw [dropped_passAfter_exclude hhost, hkept] at hbefore
      exact absurd hbefore (by decide)
  | false =>
    cases hout : p.session.optedOut with
    | true =>
      have hpasses := dropped_passAfter_optOut hhost manifest now event hout hkept
      rw [Bool.eq_iff_iff, ← Bool.not_eq_false, hpasses]
      cases manifest.deniesEvent (stamp p.session (p.sequence + 1) event) <;>
        cases event.friendly <;> simp
    | false =>
      rw [optOut_idle hhost manifest now event hout (.inr rfl)]
      have hcustom : p.passBefore manifest now event .manifestOptOut =
          p.passAfter manifest now event .customOptOut := rfl
      rw [hcustom, optOut_idle hhost manifest now event hout (.inl rfl)]
      exact (dropped_passAfter_exclude hhost manifest now event).trans hkept

/-- The verdict on opted-out sessions depends on which rules there are, not on their order. An
event that does not pass is dropped, goes to no channel, and meets no later stage. Other sessions
are not concerned. -/
theorem optOut_verdict :
    let stamped := stamp p.session (p.sequence + 1) event
    let after := p.passAfter manifest now event .manifestOptOut
    (p.session.optedOut = true → manifest.excludesEverywhere stamped = false →
      (after.context.dropped = false ↔
        manifest.deniesEvent stamped = false ∧
          (event.friendly = true ∨ manifest.allowsEvent stamped = true)) ∧
      (after.context.dropped = true →
        (p.process manifest now event).1.dropped = true ∧
        (p.process manifest now event).1.deliveries = [] ∧
        ∀ s ∈ ran (p.surroundings now) (p.stages manifest) (p.entry manifest event),
          s.priority.value ≤ Priority.manifestOptOut.value)) ∧
    (∀ other : Manifest, other.actions.Perm manifest.actions →
      (p.passAfter other now event .manifestOptOut).context.dropped = after.context.dropped) ∧
    (p.session.optedOut = false →
      p.passAfter manifest now event .customOptOut =
        p.passBefore manifest now event .customOptOut ∧
      after = p.passBefore manifest now event .manifestOptOut) := by
  intro stamped after
  refine ⟨fun hout hkept => ⟨?_, ?_⟩, fun other hperm => ?_, fun hin => ⟨?_, ?_⟩⟩
  · exact dropped_passAfter_optOut hhost manifest now event hout hkept
  · exact stopped_of_dropped_passAfter hhost manifest now event
  · rw [show after = p.passAfter manifest now event .manifestOptOut from rfl,
      dropped_passAfter_optOut_eq hhost, dropped_passAfter_optOut_eq hhost,
      Manifest.excludesEverywhere, Manifest.deniesEvent, Manifest.allowsEvent, hperm.any_eq,
      hperm.any_eq, hperm.any_eq]
    rfl
  · exact optOut_idle hhost manifest now event hin (.inl rfl)
  · exact optOut_idle hhost manifest now event hin (.inr rfl)

end

end Processor

namespace Sample

def allowing : Action := ⟨none, .allowEvents ["Page/View"]⟩

def denying : Action := ⟨none, .denyEvents ["PAGE/VIEW"]⟩

end Sample

/-- For an opted-out session the page view passes if a rule allows it, and does not if another one
denies it. -/
theorem pageView_of_optedOut_session :
    let p := Processor.standard { Session.create "s" with optedOut := true } Sample.registry 0
    let allowing := { Manifest.bundled with actions := [Sample.allowing] }
    let denying := { Manifest.bundled with actions := [Sample.denying, Sample.allowing] }
    p.host = HostStage.standard ∧ p.session.optedOut = true ∧
      (p.passAfter allowing 0 Sample.pageView .manifestOptOut).context.dropped = false ∧
      (p.passAfter denying 0 Sample.pageView .manifestOptOut).context.dropped = true ∧
      (p.process denying 0 Sample.pageView).1.deliveries = [] := by
  intro p allowing denying
  have hhost : p.host = HostStage.standard := Processor.host_standard _ _ _
  have hallows := (Processor.optOut_verdict hhost allowing 0 Sample.pageView).1 rfl (by decide)
  have hdenies := (Processor.optOut_verdict hhost denying 0 Sample.pageView).1 rfl (by decide)
  have hstops : (p.passAfter denying 0 Sample.pageView .manifestOptOut).context.dropped = true := by
    rw [← Bool.not_eq_false, hdenies.1]
    decide
  exact ⟨hhost, rfl, hallows.1.mpr (by decide), hstops, (hdenies.2 hstops).2.1⟩

end EventGate
