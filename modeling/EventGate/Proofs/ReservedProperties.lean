import EventGate.Proofs.HoldingBack
import EventGate.Proofs.OptOut
import EventGate.Proofs.ReservedNames

/-! # Properties of the framework that are held back

The host never holds back a property of the framework by its name. It can be held back as the raw
text of another property, or because a rule for opted-out sessions names it.
-/

namespace EventGate

open Stage Text

/-- Whether a name of the bag is that of the raw text of one of several properties, which has a
beginning of the framework's names for its name. -/
def Bag.IsRawOfGroup (bag : Bag) (owns : List String) (name : String) : Prop :=
  ∃ own ∈ owns, Naming.isGroup own = true ∧ bag.contains (Naming.rawName own) = true ∧
    fold name = fold (Naming.rawName own)

/-- Of a property of the framework, excluding properties of others holds back a raw text only. -/
theorem Bag.excludes_reserved_iff {bag : Bag} {owns : List String} {name : String}
    (hbag : ∀ own ∈ owns, bag.contains own = true)
    (howns : ∀ own ∈ owns, Naming.isReserved own = false)
    (hreserved : Naming.isReserved name = true) :
    (∃ own ∈ owns, bag.Excludes own (fold name)) ↔ bag.IsRawOfGroup owns name := by
  constructor
  · rintro ⟨own, hown, -, hsame | ⟨hraw, hsame⟩⟩
    · rw [Naming.isReserved_congr hsame, howns own hown] at hreserved
      exact absurd hreserved Bool.false_ne_true
    · refine ⟨own, hown, ?_, hraw, hsame⟩
      rw [Naming.isReserved_congr hsame, Naming.isReserved_rawName, howns own hown] at hreserved
      exact hreserved.resolve_left Bool.false_ne_true
  · rintro ⟨own, hown, -, hraw, hsame⟩
    exact ⟨own, hown, hbag own hown, .inr ⟨hraw, hsame⟩⟩

namespace Event

variable {event : Event} {name : String}

theorem isExcluded_iff : event.isExcluded name = true ↔ fold name ∈ event.excluded.folded :=
  event.excluded.contains_iff name

/-- The opt-out of the host holds back a property of the framework as a raw text only. -/
theorem isExcluded_excludeAll_unfriendly (hreserved : Naming.isReserved name = true) :
    (event.excludeAll (HostStage.unfriendly event)).isExcluded name = true ↔
      event.isExcluded name = true ∨
        event.properties.IsRawOfGroup (HostStage.unfriendly event) name := by
  rw [isExcluded_iff, isExcluded_iff, mem_excluded_excludeAll]
  refine or_congr_right (Bag.excludes_reserved_iff ?_ ?_ hreserved)
  · intro own hown
    obtain ⟨e, he, rfl⟩ := List.mem_map.mp (List.mem_filter.mp hown).1
    exact Bag.contains_of_mem he
  · intro own hown
    have htest := (List.mem_filter.mp hown).2
    rw [Bool.and_eq_true, Bool.not_eq_true', Bool.not_eq_true'] at htest
    exact htest.2

/-- So does the suppression of empty texts. -/
theorem isExcluded_excludeAll_emptyNames (hreserved : Naming.isReserved name = true) :
    (event.excludeAll (HostStage.emptyNames event)).isExcluded name = true ↔
      event.isExcluded name = true ∨
        event.properties.IsRawOfGroup (HostStage.emptyNames event) name := by
  have hown : ∀ own ∈ HostStage.emptyNames event,
      event.properties.contains own = true ∧ Naming.isReserved own = false := by
    intro own hmem
    obtain ⟨e, he, rfl⟩ := List.mem_map.mp hmem
    obtain ⟨hsent, htest⟩ := List.mem_filter.mp he
    rw [Bool.and_eq_true, Bool.not_eq_true'] at htest
    exact ⟨Bag.contains_of_mem (mem_sent.mp hsent).1, htest.2⟩
  rw [isExcluded_iff, isExcluded_iff, mem_excluded_excludeAll]
  exact or_congr_right (Bag.excludes_reserved_iff (fun own hmem => (hown own hmem).1)
    (fun own hmem => (hown own hmem).2) hreserved)

end Event

namespace Processor

variable {κ : Type} {p : Processor HostState κ}

section

variable (hhost : p.host = HostStage.standard) (manifest : Manifest) (now : Nat) (event : Event)

include hhost

theorem event_passBefore_customOptOut :
    (p.passBefore manifest now event .customOptOut).event =
      stamp p.session (p.sequence + 1) event :=
  congrArg Pass.event (passAfter_exclude hhost manifest now event)

theorem isExcluded_passAfter_customOptOut (hfree : ∀ name, event.isExcluded name = false)
    {name : String} (hreserved : Naming.isReserved name = true) :
    (p.passAfter manifest now event .customOptOut).event.isExcluded name = true ↔
      p.session.optedOut = true ∧ event.friendly = true ∧
        (p.passBefore manifest now event .customOptOut).context.dropped = false ∧
        (stamp p.session (p.sequence + 1) event).properties.IsRawOfGroup
          (HostStage.unfriendly (stamp p.session (p.sequence + 1) event)) name := by
  have hevent := event_passBefore_customOptOut hhost manifest now event
  have hstamped : (stamp p.session (p.sequence + 1) event).isExcluded name = false := hfree name
  have hsession : (p.surroundings now).session.optedOut = p.session.optedOut := rfl
  rw [passAfter_eq hhost, Priority.stage, HostStage.effect_customOptOut, hsession, hevent]
  cases (p.passBefore manifest now event .customOptOut).context.dropped with
  | true => simp [hevent, hstamped]
  | false =>
    cases p.session.optedOut with
    | false => simp [hevent, hstamped]
    | true =>
      have hfriendly : (stamp p.session (p.sequence + 1) event).friendly = event.friendly := rfl
      rw [hfriendly]
      cases event.friendly with
      | false => simp [hstamped]
      | true => simp [Event.isExcluded_excludeAll_unfriendly hreserved, hstamped]

theorem isExcluded_passAfter_manifestOptOut (name : String) :
    let stamped := stamp p.session (p.sequence + 1) event
    let rules := Manifest.optOutRules manifest.actions
    (p.passAfter manifest now event .manifestOptOut).event.isExcluded name = true ↔
      p.session.optedOut = true ∧
          (p.passAfter manifest now event .manifestOptOut).context.dropped = false ∧
          (∃ denied ∈ ManifestStage.namesBy rules.deniedProperties stamped,
            stamped.properties.Excludes denied (fold name)) ∨
        (p.passAfter manifest now event .customOptOut).event.isExcluded name = true ∧
          (p.session.optedOut = true →
            (p.passAfter manifest now event .manifestOptOut).context.dropped = false →
            ∀ allowed ∈ ManifestStage.namesBy rules.allowedProperties stamped,
              ¬ Naming.Frees allowed (fold name)) := by
  intro stamped rules
  have hbefore : p.passBefore manifest now event .manifestOptOut =
      p.passAfter manifest now event .customOptOut := rfl
  have hprops : (p.passAfter manifest now event .customOptOut).event.properties =
      stamped.properties :=
    properties_passBelow hhost manifest now event (by decide)
  have hsession : (p.surroundings now).session.optedOut = p.session.optedOut := rfl
  rw [passAfter_eq hhost _ _ _ .manifestOptOut, hbefore, Priority.stage,
    ManifestStage.effect_optOut, hsession]
  generalize p.passAfter manifest now event .customOptOut = pass at hprops ⊢
  cases hout : p.session.optedOut with
  | false => simp
  | true =>
    cases hd : pass.context.dropped with
    | true => simp [hd]
    | false =>
      by_cases hverdict : ManifestStage.verdict rules pass.event pass.context.optOut = .allowed
      · have hfiltered : fold name ∈ (ManifestStage.filtered rules pass.event).excluded.folded ↔
            (fold name ∈ pass.event.excluded.folded ∧
              ∀ allowed ∈ ManifestStage.namesBy rules.allowedProperties stamped,
                ¬ Naming.Frees allowed (fold name)) ∨
            ∃ denied ∈ ManifestStage.namesBy rules.deniedProperties stamped,
              stamped.properties.Excludes denied (fold name) := by
          rw [ManifestStage.filtered_eq, Event.mem_excluded_excludeAll,
            Event.mem_excluded_readmitAll, Event.properties_readmitAll, hprops,
            ManifestStage.namesBy_congr hprops, ManifestStage.namesBy_congr hprops]
        rw [if_neg (by decide), if_pos hverdict, Event.isExcluded_iff, Event.isExcluded_iff,
          hfiltered, or_comm]
        simp [hd]
      · rw [if_neg (by decide), if_neg hverdict]
        simp [ManifestStage.denied]

theorem isExcluded_passAfter_suppressEmpty {name : String}
    (hreserved : Naming.isReserved name = true) :
    (p.passAfter manifest now event .suppressEmpty).event.isExcluded name = true ↔
      (p.passBefore manifest now event .suppressEmpty).event.isExcluded name = true ∨
        (p.passBefore manifest now event .suppressEmpty).context.dropped = false ∧
        (p.passBefore manifest now event .suppressEmpty).event.properties.IsRawOfGroup
          (HostStage.emptyNames (p.passBefore manifest now event .suppressEmpty).event) name := by
  rw [passAfter_eq hhost, Priority.stage, HostStage.effect_suppressEmpty]
  cases hd : (p.passBefore manifest now event .suppressEmpty).context.dropped with
  | true => simp
  | false => simp [Event.isExcluded_excludeAll_emptyNames hreserved]

/-- A property of the framework is held back in three cases only: a rule for opted-out sessions
names it or the property that it is the raw text of; it is the raw text of an unfriendly property
with a beginning of the framework's names for its name, and no rule gives it free; or it is the raw
text of such a property that is empty. -/
theorem reserved_excluded_iff (hfree : ∀ name, event.isExcluded name = false) {name : String}
    (hreserved : Naming.isReserved name = true) :
    let stamped := stamp p.session (p.sequence + 1) event
    let rules := Manifest.optOutRules manifest.actions
    let passes := (p.passAfter manifest now event .manifestOptOut).context.dropped = false
    let unsuppressed := p.passBefore manifest now event .suppressEmpty
    (p.process manifest now event).1.event.isExcluded name = true ↔
      (p.session.optedOut = true ∧ passes ∧
        ∃ denied ∈ ManifestStage.namesBy rules.deniedProperties stamped,
          stamped.properties.Excludes denied (fold name)) ∨
      (p.session.optedOut = true ∧ event.friendly = true ∧
        (p.passBefore manifest now event .customOptOut).context.dropped = false ∧
        stamped.properties.IsRawOfGroup (HostStage.unfriendly stamped) name ∧
        (passes → ∀ allowed ∈ ManifestStage.namesBy rules.allowedProperties stamped,
          ¬ Naming.Frees allowed (fold name))) ∨
      (unsuppressed.context.dropped = false ∧
        unsuppressed.event.properties.IsRawOfGroup (HostStage.emptyNames unsuppressed.event)
          name) := by
  intro stamped rules passes unsuppressed
  have hmiddle : unsuppressed.event.excluded =
      (p.passAfter manifest now event .manifestOptOut).event.excluded :=
    excluded_passBelow_of_no_change hhost manifest now event (by decide) (by decide)
  have hend : (p.process manifest now event).1.event.excluded =
      (p.passAfter manifest now event .suppressEmpty).event.excluded := by
    rw [process_fst, event_outcome]
    exact excluded_passBelow_of_no_change hhost manifest now event (by decide) (by decide)
  have hmanifest := isExcluded_passAfter_manifestOptOut hhost manifest now event name
  dsimp only at hmanifest
  rw [Event.isExcluded, hend, ← Event.isExcluded,
    isExcluded_passAfter_suppressEmpty hhost manifest now event hreserved, Event.isExcluded,
    show (p.passBefore manifest now event .suppressEmpty).event.excluded = _ from hmiddle,
    ← Event.isExcluded, hmanifest,
    isExcluded_passAfter_customOptOut hhost manifest now event hfree hreserved, or_assoc]
  refine or_congr_right (or_congr_left ?_)
  constructor
  · rintro ⟨⟨hout, hfriendly, hd, hraw⟩, hallowed⟩
    exact ⟨hout, hfriendly, hd, hraw, hallowed hout⟩
  · rintro ⟨hout, hfriendly, hd, hraw, hallowed⟩
    exact ⟨⟨hout, hfriendly, hd, hraw⟩, fun _ => hallowed⟩

end

end Processor

namespace Sample

def start : Event :=
  { pageView with
    name := "Op/Start"
    friendly := true
    properties := .ofList
      [("Context.Os", .text "linux"), ("Reserved", .text ""), ("Reserved.NotHashed", .text "x")] }

end Sample

/-- Without rules the start comes to lose the raw text. -/
theorem start_loses_raw_text :
    let p := Processor.standard { Session.create "s" with optedOut := true } Sample.registry 0
    p.host = HostStage.standard ∧ (∀ name, Sample.start.isExcluded name = false) ∧
      Naming.isReserved "Reserved.NotHashed" = true ∧
      (p.process Manifest.bundled 0 Sample.start).1.event.isExcluded "Reserved.NotHashed" =
        true := by
  intro p
  have hhost : p.host = HostStage.standard := Processor.host_standard _ _ _
  have hfree : ∀ name, Sample.start.isExcluded name = false := NameSet.contains_empty
  have hreserved : Naming.isReserved "Reserved.NotHashed" = true := by decide
  have hkept : (p.passBefore Manifest.bundled 0 Sample.start .customOptOut).context.dropped =
      false :=
    Processor.dropped_passAfter_exclude hhost Manifest.bundled 0 Sample.start
  have hraw : (Processor.stamp p.session (p.sequence + 1) Sample.start).properties.IsRawOfGroup
      (HostStage.unfriendly (Processor.stamp p.session (p.sequence + 1) Sample.start))
      "Reserved.NotHashed" :=
    ⟨"Reserved", by decide, by decide, by decide, rfl⟩
  have hspec :=
    Processor.reserved_excluded_iff hhost Manifest.bundled 0 Sample.start hfree hreserved
  exact ⟨hhost, hfree, hreserved, hspec.mpr (.inr (.inl ⟨rfl, rfl, hkept, hraw,
    fun _ _ hallowed => absurd hallowed List.not_mem_nil⟩))⟩

/-- Under a rule that names the system it loses this as well. -/
theorem start_loses_system :
    let p := Processor.standard { Session.create "s" with optedOut := true } Sample.registry 0
    let manifest := { Manifest.bundled with actions := [⟨none, .denyProperties ["Context.Os"]⟩] }
    let outcome := (p.process manifest 0 Sample.start).1
    (∀ name, Sample.start.isExcluded name = false) ∧ outcome.dropped = false ∧
      Naming.isReserved "Context.Os" = true ∧
      outcome.event.properties.contains "Context.Os" = true ∧
      outcome.event.isExcluded "Context.Os" = true ∧
      Naming.isReserved "Reserved.NotHashed" = true ∧
      outcome.event.properties.contains "Reserved.NotHashed" = true ∧
      outcome.event.isExcluded "Reserved.NotHashed" = true := by
  intro p manifest outcome
  have hrun : outcome = _ :=
    Processor.process_fst_eq_foldl (Processor.host_standard _ _ _) manifest 0 Sample.start
  refine ⟨NameSet.contains_empty, ?_⟩
  rw [hrun]
  decide +kernel

end EventGate
