import EventGate.Proofs.FriendlyEvents
import EventGate.Proofs.ReservedProperties
import EventGate.Proofs.RuleOrder

/-! # Properties of events of opted-out sessions

Which properties the two stages for opted-out sessions hold back. A rule that denies a property has
the last word on it, a rule that allows it comes next, and what the host and earlier stages have
held back stands only where no rule speaks.
-/

namespace EventGate

open Stage Text

namespace Naming

/-- Whether a name speaks of a property: by its own name, or as the owner of a raw text. -/
def speaksOf (name other : String) : Bool :=
  sameName name other || sameName (rawName name) other

theorem speaksOf_iff {name other : String} :
    speaksOf name other = true ↔ Frees name (fold other) := by
  rw [speaksOf, Bool.or_eq_true, sameName_iff, sameName_iff, Frees, eq_comm,
    eq_comm (a := fold (rawName name))]

end Naming

/-- Of a property of the bag, a name that the bag has holds back what it speaks of. -/
theorem Bag.excludes_iff {bag : Bag} {name other : String} (hother : bag.contains other = true) :
    bag.Excludes name (fold other) ↔
      bag.contains name = true ∧ Naming.speaksOf name other = true := by
  have hraw : fold other = fold (Naming.rawName name) →
      bag.contains (Naming.rawName name) = true := by
    intro h
    rw [Bag.contains_iff] at hother ⊢
    exact h ▸ hother
  rw [Naming.speaksOf_iff, Bag.Excludes, Naming.Frees]
  refine and_congr_right fun _ => or_congr_right ?_
  exact ⟨And.right, fun h => ⟨hraw h, h⟩⟩

/-! ## What the rules say -/

namespace Manifest

def deniesProperty (manifest : Manifest) (event : Event) (name : String) : Bool :=
  manifest.actions.any fun action =>
    match action.effect with
    | .denyProperties names => action.applies event && names.any fun n =>
        event.properties.contains n && Naming.speaksOf n name
    | _ => false

def allowsProperty (manifest : Manifest) (event : Event) (name : String) : Bool :=
  manifest.actions.any fun action =>
    match action.effect with
    | .allowProperties names => action.applies event && names.any fun n => Naming.speaksOf n name
    | _ => false

theorem any_deniedNames (manifest : Manifest) (event : Event) (name : String) :
    ((ManifestStage.namesBy (optOutRules manifest.actions).deniedProperties event).any fun n =>
        event.properties.contains n && Naming.speaksOf n name) =
      manifest.deniesProperty event name := by
  rw [ManifestStage.namesBy, List.any_flatMap, List.any_filter, optOutRules, Guarded.any_select,
    deniesProperty]
  congr 1
  funext action
  cases action.effect <;> rfl

theorem any_allowedNames (manifest : Manifest) (event : Event) (name : String) :
    ((ManifestStage.namesBy (optOutRules manifest.actions).allowedProperties event).any fun n =>
        Naming.speaksOf n name) =
      manifest.allowsProperty event name := by
  rw [ManifestStage.namesBy, List.any_flatMap, List.any_filter, optOutRules, Guarded.any_select,
    allowsProperty]
  congr 1
  funext action
  cases action.effect <;> rfl

/-- The stages for opted-out sessions: that of the host, and that of the manifest behind it. -/
def optOutStages {σ : Type} (manifest : Manifest) : List (Stage σ) :=
  [HostStage.customOptOut, ManifestStage.optOut (optOutRules manifest.actions)]

end Manifest

/-! ## One stage after the other -/

section

variable {σ : Type} (manifest : Manifest) (around : Surroundings) (pass : Pass σ)

theorem runAll_optOutStages :
    runAll around manifest.optOutStages pass =
      (ManifestStage.optOut (Manifest.optOutRules manifest.actions)).effect around
        (HostStage.customOptOut.effect around pass) := by
  have hsound : ∀ s ∈ (manifest.optOutStages : List (Stage σ)), s.Sound := by
    intro s hs
    rcases List.mem_cons.mp hs with rfl | hs
    · exact HostStage.sound_customOptOut
    · rw [List.mem_singleton.mp hs]
      exact ManifestStage.sound_optOut _
  unfold Manifest.optOutStages at hsound ⊢
  rw [runAll_cons hsound, runAll_cons fun s hs => hsound s (List.mem_cons_of_mem _ hs), runAll_nil]

theorem properties_optOutStages :
    (runAll around manifest.optOutStages pass).event.properties = pass.event.properties := by
  have hhost : (HostStage.customOptOut.effect around pass).event.properties =
      pass.event.properties := by
    rw [HostStage.effect_customOptOut]
    split
    · rfl
    · split <;> simp
  rw [runAll_optOutStages, ManifestStage.effect_optOut]
  split
  · exact hhost
  · split
    · simp [ManifestStage.filtered_eq, hhost]
    · exact hhost

/-- What the host leaves of the names held back: for a friendly event the unfriendly ones join
them. -/
def HostStage.kept (event : Event) : Event :=
  if event.friendly then event.excludeAll (unfriendly event) else event

variable {manifest around pass}

theorem event_optOutStages (hout : around.session.optedOut = true)
    (hpasses : (runAll around manifest.optOutStages pass).context.dropped = false) :
    (runAll around manifest.optOutStages pass).event =
      ManifestStage.filtered (Manifest.optOutRules manifest.actions)
        (HostStage.kept pass.event) := by
  have hown : (HostStage.customOptOut.effect around pass).event = HostStage.kept pass.event ∨
      pass.context.dropped = true := by
    rw [HostStage.effect_customOptOut, HostStage.kept, hout]
    cases pass.context.dropped <;> cases pass.event.friendly <;> simp
  have hdropped : (HostStage.customOptOut.effect around pass).context.dropped =
      pass.context.dropped := by
    rw [HostStage.effect_customOptOut]
    split
    · rfl
    · split <;> rfl
  rw [runAll_optOutStages, ManifestStage.effect_optOut, hdropped, hout] at hpasses ⊢
  cases hd : pass.context.dropped with
  | true => simp [hd, hdropped] at hpasses
  | false =>
    rw [hd] at hpasses
    simp only [Bool.not_true, Bool.or_false, Bool.false_eq_true, if_false] at hpasses ⊢
    split at hpasses
    · next hverdict =>
      rw [if_pos hverdict]
      dsimp only
      rw [hown.resolve_right (by simp [hd])]
    · exact absurd hpasses (by simp [ManifestStage.denied])

end

/-- In a processor with the standard stages these two come one right behind the other. -/
theorem Processor.passAfter_optOut_eq_runAll {κ : Type} {p : Processor HostState κ}
    (hhost : p.host = HostStage.standard) (manifest : Manifest) (now : Nat) (event : Event) :
    p.passAfter manifest now event .manifestOptOut =
      runAll (p.surroundings now) manifest.optOutStages
        (p.passBefore manifest now event .customOptOut) := by
  have hnext : p.passBefore manifest now event .manifestOptOut =
      p.passAfter manifest now event .customOptOut := rfl
  rw [passAfter_eq hhost, hnext, passAfter_eq hhost, runAll_optOutStages]
  rfl

namespace HostStage

/-- Whether the host holds back a property of a friendly event: it is neither friendly nor reserved,
or it is the raw text of such a property. -/
def Withholds (event : Event) (name : String) : Prop :=
  event.friendly = true ∧ (¬ event.AllowsName name ∨
    ∃ own ∈ event.properties.names, ¬ event.AllowsName own ∧
      sameName (Naming.rawName own) name = true)

theorem mem_unfriendly_iff {event : Event} {name : String} :
    name ∈ unfriendly event ↔ name ∈ event.properties.names ∧ ¬ event.AllowsName name := by
  rw [unfriendly, List.mem_filter, Event.AllowsName, not_or, Bool.and_eq_true, Bool.not_eq_true',
    Bool.not_eq_true', Bool.not_eq_true, Bool.not_eq_true]

theorem isExcluded_kept {event : Event} {name : String}
    (hname : event.properties.contains name = true) :
    (kept event).isExcluded name = true ↔
      event.isExcluded name = true ∨ Withholds event name := by
  unfold kept Withholds
  cases event.friendly with
  | false => simp
  | true =>
    rw [if_pos rfl, Event.isExcluded_iff, Event.mem_excluded_excludeAll, ← Event.isExcluded_iff]
    refine or_congr_right ?_
    simp only [true_and, mem_unfriendly_iff, Bag.excludes_iff hname]
    constructor
    · rintro ⟨own, ⟨hown, hunfriendly⟩, -, hspeaks⟩
      rcases Bool.or_eq_true _ _ ▸ hspeaks with hsame | hraw
      · exact .inl (mt (event.allowsName_congr hsame).mpr hunfriendly)
      · exact .inr ⟨own, hown, hunfriendly, hraw⟩
    · rintro (hunfriendly | ⟨own, hown, hunfriendly, hraw⟩)
      · obtain ⟨e, he, hfold⟩ := List.mem_map.mp ((Bag.contains_iff _ _).mp hname)
        have hsame : sameName e.1 name = true := (sameName_iff _ _).mpr hfold
        exact ⟨e.1, ⟨List.mem_map_of_mem he, mt (event.allowsName_congr hsame).mp hunfriendly⟩,
          Bag.contains_of_mem he, Bool.or_eq_true _ _ ▸ .inl hsame⟩
      · obtain ⟨e, he, rfl⟩ := List.mem_map.mp hown
        exact ⟨e.1, ⟨hown, hunfriendly⟩, Bag.contains_of_mem he, Bool.or_eq_true _ _ ▸ .inr hraw⟩

end HostStage

namespace ManifestStage

/-- Of what was held back, rules keep what they do not allow; to this they add what they deny. -/
theorem isExcluded_filtered {manifest : Manifest} {event : Event} {name : String}
    (hname : event.properties.contains name = true) :
    (filtered (Manifest.optOutRules manifest.actions) event).isExcluded name = true ↔
      manifest.deniesProperty event name = true ∨
        manifest.allowsProperty event name = false ∧ event.isExcluded name = true := by
  have hdenied : (∃ n ∈ namesBy (Manifest.optOutRules manifest.actions).deniedProperties event,
      event.properties.Excludes n (fold name)) ↔ manifest.deniesProperty event name = true := by
    simp only [← Manifest.any_deniedNames, List.any_eq_true, Bag.excludes_iff hname,
      Bool.and_eq_true]
  have hallowed : (∀ n ∈ namesBy (Manifest.optOutRules manifest.actions).allowedProperties event,
      ¬ Naming.Frees n (fold name)) ↔ manifest.allowsProperty event name = false := by
    simp only [← Manifest.any_allowedNames, List.any_eq_false, Naming.speaksOf_iff]
  rw [filtered_eq, Event.isExcluded_iff, Event.mem_excluded_excludeAll,
    Event.mem_excluded_readmitAll, Event.properties_readmitAll, hdenied, hallowed,
    ← Event.isExcluded_iff, or_comm, and_comm]

end ManifestStage

/-! ## Both stages -/

section

variable {σ : Type} {manifest other : Manifest} (h : other.actions.Perm manifest.actions)
  (around : Surroundings) (pass : Pass σ)

include h

/-- The verdict on an event does not depend on the order of the rules. -/
theorem context_optOutStages_of_perm :
    (runAll around other.optOutStages pass).context =
      (runAll around manifest.optOutStages pass).context := by
  rw [runAll_optOutStages, runAll_optOutStages, ManifestStage.effect_optOut,
    ManifestStage.effect_optOut, ManifestStage.verdict_perm h]
  split
  · rfl
  · split <;> rfl

/-- Nor does what is held back of an event that passes. -/
theorem isExcluded_optOutStages_of_perm (hout : around.session.optedOut = true)
    (hpasses : (runAll around manifest.optOutStages pass).context.dropped = false)
    (name : String) :
    (runAll around other.optOutStages pass).event.isExcluded name =
      (runAll around manifest.optOutStages pass).event.isExcluded name := by
  have hother : (runAll around other.optOutStages pass).context.dropped = false := by
    rw [context_optOutStages_of_perm h, hpasses]
  rw [event_optOutStages hout hpasses, event_optOutStages hout hother]
  exact (ManifestStage.alike_filtered_of_perm h.symm _).isExcluded name

end

namespace Manifest

variable {σ : Type}

theorem deniesProperty_congr (manifest : Manifest) {a b : Event}
    (h : a.properties = b.properties) (name : String) :
    manifest.deniesProperty a name = manifest.deniesProperty b name := by
  simp only [deniesProperty, h, Action.applies_congr h]

theorem allowsProperty_congr (manifest : Manifest) {a b : Event}
    (h : a.properties = b.properties) (name : String) :
    manifest.allowsProperty a name = manifest.allowsProperty b name := by
  simp only [allowsProperty, Action.applies_congr h]

/-- A property of an event that passes is held back exactly if a rule denies it, or no rule allows
it and it was held back before or the host withholds it. So a rule that denies a property beats all
rules that allow it, in any order of the rules. The properties themselves stay as they are. -/
theorem optOut_holds_back_exactly (manifest : Manifest) (around : Surroundings) (pass : Pass σ) :
    let event := pass.event
    let after := runAll around manifest.optOutStages pass
    after.event.properties = event.properties ∧
    (around.session.optedOut = true → after.context.dropped = false →
      (∀ name, event.properties.contains name = true →
        (after.event.isExcluded name = true ↔
          manifest.deniesProperty event name = true ∨
            manifest.allowsProperty event name = false ∧
              (event.isExcluded name = true ∨ HostStage.Withholds event name))) ∧
      ∀ other : Manifest, other.actions.Perm manifest.actions →
        (runAll around other.optOutStages pass).context.dropped = false ∧
        (∀ name, (runAll around other.optOutStages pass).event.isExcluded name =
          after.event.isExcluded name) ∧
        ∀ name, event.properties.contains name = true →
          manifest.deniesProperty event name = true →
            (runAll around other.optOutStages pass).event.isExcluded name = true) := by
  intro event after
  refine ⟨properties_optOutStages manifest around pass, fun hout hpasses => ?_⟩
  have hprops : (HostStage.kept event).properties = event.properties := by
    unfold HostStage.kept
    split <;> simp
  have hexact : ∀ name, event.properties.contains name = true →
      (after.event.isExcluded name = true ↔
        manifest.deniesProperty event name = true ∨
          manifest.allowsProperty event name = false ∧
            (event.isExcluded name = true ∨ HostStage.Withholds event name)) := by
    intro name hname
    have hkept : (HostStage.kept event).properties.contains name = true := by rw [hprops, hname]
    rw [show after.event = _ from event_optOutStages hout hpasses,
      ManifestStage.isExcluded_filtered hkept, HostStage.isExcluded_kept hname,
      manifest.deniesProperty_congr hprops, manifest.allowsProperty_congr hprops]
  refine ⟨hexact, fun other hperm => ⟨?_, fun name => ?_, fun name hname hdenied => ?_⟩⟩
  · rw [context_optOutStages_of_perm hperm]
    exact hpasses
  · exact isExcluded_optOutStages_of_perm hperm around pass hout hpasses name
  · rw [isExcluded_optOutStages_of_perm hperm around pass hout hpasses]
    exact (hexact name hname).mpr (.inl hdenied)

end Manifest

namespace Sample

def denyingOs : Action := ⟨none, .denyProperties ["context.os"]⟩

def allowingBoth : Action := ⟨none, .allowProperties ["CONTEXT.OS", "reserved"]⟩

end Sample

/-- The start is sent without the system in either order of the two rules, and with the property and
its raw text, which the host has held back. -/
theorem start_without_system :
    let p := Processor.standard { Session.create "s" with optedOut := true } Sample.registry 0
    let manifest := { Manifest.bundled with actions := [Sample.denyingOs, Sample.allowingBoth] }
    let turned := { Manifest.bundled with actions := [Sample.allowingBoth, Sample.denyingOs] }
    let before := p.passBefore manifest 0 Sample.start .customOptOut
    let after := p.passAfter manifest 0 Sample.start .manifestOptOut
    p.session.optedOut = true ∧ after.context.dropped = false ∧
      turned.actions.Perm manifest.actions ∧
      after.event.isExcluded "Context.Os" = true ∧
      (runAll (p.surroundings 0) turned.optOutStages before).event.isExcluded "Context.Os" = true ∧
      HostStage.Withholds before.event "Reserved.NotHashed" ∧
      after.event.isExcluded "Reserved.NotHashed" = false := by
  intro p manifest turned before after
  have hhost : p.host = HostStage.standard := Processor.host_standard _ _ _
  have hpasses : after.context.dropped = false :=
    (Processor.dropped_passAfter_optOut hhost manifest 0 Sample.start rfl (by decide)).mpr
      ⟨by decide, .inl rfl⟩
  have hperm : turned.actions.Perm manifest.actions := List.Perm.swap _ _ _
  have hevent : before.event = Processor.stamp p.session 1 Sample.start :=
    Processor.event_passBefore_customOptOut hhost manifest 0 Sample.start
  have hlink : after = runAll (p.surroundings 0) manifest.optOutStages before :=
    Processor.passAfter_optOut_eq_runAll hhost manifest 0 Sample.start
  obtain ⟨hexact, horder⟩ :=
    (manifest.optOut_holds_back_exactly (p.surroundings 0) before).2 rfl (hlink ▸ hpasses)
  obtain ⟨-, -, hbeats⟩ := horder turned hperm
  rw [← hlink, hevent] at hexact
  rw [hevent] at hbeats
  have hunfriendly : ¬ before.event.AllowsName "Reserved" := by
    rw [hevent]
    intro h
    rcases h with h | h <;> exact absurd h (by decide +kernel)
  have hwithheld : HostStage.Withholds before.event "Reserved.NotHashed" := by
    rw [hevent] at hunfriendly ⊢
    exact ⟨rfl, .inr ⟨"Reserved", by decide +kernel, hunfriendly, by decide +kernel⟩⟩
  refine ⟨rfl, hpasses, hperm, ?_, ?_, hwithheld, ?_⟩
  · exact (hexact "Context.Os" (by decide +kernel)).mpr (.inl (by decide +kernel))
  · exact hbeats "Context.Os" (by decide +kernel) (by decide +kernel)
  · refine eq_false_of_ne_true fun hheld => ?_
    rcases (hexact "Reserved.NotHashed" (by decide +kernel)).mp hheld with hdenied | ⟨hfree, -⟩
    · exact absurd hdenied (by decide +kernel)
    · exact absurd hfree (by decide +kernel)

end EventGate
