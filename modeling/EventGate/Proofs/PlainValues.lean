import EventGate.Proofs.Bags
import EventGate.Proofs.Delivery

/-! # What channels get is plain

An event that is not dropped has passed every stage. The hashing leaves no personal value, and the
stage behind it no structured one; the other stages leave values alone from there on.
-/

namespace EventGate

open Stage Text

/-- Whether a value is a text, a number or a truth value, and so goes out as it is. -/
def PropertyValue.isPlain : PropertyValue → Bool
  | text _ | number _ | flag _ => true
  | personal _ | structured _ => false

/-! ## Stages that ran -/

namespace Stage

variable {σ : Type}

/-- In a run that does not drop the event, each stage let the event go on. -/
theorem run_fst_of_not_dropped {around : Surroundings} {first rest : List (Stage σ)}
    {stage : Stage σ} {pass : Pass σ} (hs : ∀ s ∈ first ++ stage :: rest, s.Sound)
    (hd : (runAll around (first ++ stage :: rest) pass).context.dropped = false) :
    (stage.run around (runAll around first pass)).1 = true := by
  have htail : ∀ s ∈ stage :: rest, s.Sound := fun s hm => hs s (List.mem_append_right first hm)
  have hrest : ∀ s ∈ rest, s.Sound := fun s hm => htail s (List.mem_cons_of_mem stage hm)
  rw [runAll_append hs, runAll_cons htail] at hd
  rw [(htail stage List.mem_cons_self).stops, Bool.not_eq_true']
  cases hstopped : (stage.effect around (runAll around first pass)).context.dropped with
  | false => rfl
  | true =>
    rw [runAll_of_dropped hrest hstopped] at hd
    exact hstopped.symm.trans hd

/-- In a run that does not drop the event, every stage runs. -/
theorem ran_of_not_dropped {around : Surroundings} {stages : List (Stage σ)} {pass : Pass σ}
    (hs : ∀ s ∈ stages, s.Sound) (hd : (runAll around stages pass).context.dropped = false) :
    ran around stages pass = stages := by
  induction stages generalizing pass with
  | nil => rfl
  | cons stage rest ih =>
    have hrest : ∀ s ∈ rest, s.Sound := fun s hm => hs s (List.mem_cons_of_mem stage hm)
    have hgoes : (stage.run around (runAll around [] pass)).1 = true :=
      run_fst_of_not_dropped hs hd
    have hrun : stage.run around pass = (true, stage.effect around pass) := Prod.ext hgoes rfl
    rw [runAll_cons hs] at hd
    rw [ran, hrun]
    exact congrArg (stage :: ·) (ih hrest hd)

end Stage

/-! ## No personal values after the hashing -/

namespace Personal

/-- Every personal value of an event stands under one of these names. -/
def Pending (names : List String) (event : Event) : Prop :=
  ∀ e ∈ event.properties.entries, e.2.isPersonal = true → ∃ name ∈ names, sameName e.1 name = true

theorem pending_names (event : Event) : Pending (names event) event := fun e he hpersonal =>
  ⟨e.1, List.mem_map_of_mem (List.mem_filter.mpr ⟨he, hpersonal⟩), sameName_refl e.1⟩

namespace Pending

variable {name : String} {rest : List String} {event : Event}

/-- If all personal values that are left were there before under other names, the name is done. -/
theorem of_kept (h : Pending (name :: rest) event) {after : Event}
    (hkept : ∀ e ∈ after.properties.entries, e.2.isPersonal = true →
      e ∈ event.properties.entries ∧ sameName e.1 name = false) : Pending rest after := by
  intro e he hpersonal
  obtain ⟨hmem, hne⟩ := hkept e he hpersonal
  obtain ⟨other, hother, hsame⟩ := h e hmem hpersonal
  rcases List.mem_cons.mp hother with rfl | hother
  · rw [hne] at hsame
    exact absurd hsame Bool.false_ne_true
  · exact ⟨other, hother, hsame⟩

theorem put (h : Pending (name :: rest) event) (s : String) :
    Pending rest (event.put name (.text s)) := by
  refine h.of_kept fun e he hpersonal => ?_
  rcases Bag.mem_insert.mp he with rfl | hmem
  · exact absurd hpersonal Bool.false_ne_true
  · exact hmem

theorem put_other (h : Pending rest event) (other s : String) :
    Pending rest (event.put other (.text s)) := by
  intro e he hpersonal
  rcases Bag.mem_insert.mp he with rfl | ⟨hmem, -⟩
  · exact absurd hpersonal Bool.false_ne_true
  · exact h e hmem hpersonal

theorem hashOne (h : Pending (name :: rest) event) (hash : String → String) (attach : Bool)
    (count : Nat) : Pending rest (Personal.hashOne hash attach (event, count) name).1 := by
  rcases hashOne_cases hash attach event count name with
    ⟨hnone, heq⟩ | ⟨value, fault, -, -, heq⟩ | ⟨value, text, -, -, heq⟩
  · rw [heq]
    exact h.of_kept fun e he _ => ⟨he, Bag.sameName_of_get?_eq_none hnone he⟩
  · rw [heq]
    exact h.of_kept fun e he _ => Bag.mem_erase.mp he
  · have hput : Pending rest (event.put name (.text (hash text))) := h.put (hash text)
    rw [heq, replaced]
    split
    · exact hput.put_other (Naming.rawName name) text
    · exact hput

end Pending

/-- The hashing leaves no personal value. -/
theorem isPersonal_hashAllWith (hash : String → String) (session : Session) (event : Event)
    {e : Entry} (he : e ∈ (hashAllWith hash session event).1.properties.entries) :
    e.2.isPersonal = false := by
  have hloop : ∀ (waiting : List String) (state : Event × Nat), Pending waiting state.1 →
      Pending [] (waiting.foldl (hashOne hash session.collectsPrivate) state).1 := by
    intro waiting
    induction waiting with
    | nil => exact fun _ h => h
    | cons name rest ih => exact fun state h => ih _ (h.hashOne hash _ state.2)
  rw [← Bool.not_eq_true]
  intro hpersonal
  obtain ⟨name, hname, -⟩ := hloop (names event) (event, 0) (pending_names event) e he hpersonal
  exact absurd hname List.not_mem_nil

end Personal

/-! ## Plain values at the end -/

theorem HostStage.isPlain_rendered {value : PropertyValue} (h : value.isPersonal = false) :
    (rendered value).isPlain = true := by
  cases value with
  | personal inner => exact absurd h.symm Bool.false_ne_true
  | text s => rfl
  | number x => rfl
  | flag b => rfl
  | structured json => rfl

namespace Processor

variable {κ : Type} {p : Processor HostState κ}

section

variable (hhost : p.host = HostStage.standard) (manifest : Manifest) (now : Nat) (event : Event)

include hhost

/-- Before the structured values are rendered, no value of an event is personal. -/
theorem isPersonal_passBefore_structured
    (hd : (p.passBefore manifest now event .structured).context.dropped = false) {e : Entry}
    (he : e ∈ (p.passBefore manifest now event .structured).event.properties.entries) :
    e.2.isPersonal = false := by
  have hbefore : (p.passBefore manifest now event .personal).context.dropped = false :=
    dropped_passBelow hhost manifest now event (by decide) hd
  have hsame : (p.passBefore manifest now event .structured).event.properties =
      (p.passAfter manifest now event .personal).event.properties :=
    properties_passBelow_of_no_change hhost manifest now event (by decide) (by decide)
  rw [hsame, passAfter_eq hhost, Priority.stage, HostStage.effect_personal, hbefore,
    if_neg Bool.false_ne_true] at he
  exact Personal.isPersonal_hashAllWith Digest.ofText _ _ he

theorem isPlain_passAfter_route
    (hd : (p.passAfter manifest now event .manifestRoute).context.dropped = false) {e : Entry}
    (he : e ∈ (p.passAfter manifest now event .manifestRoute).event.properties.entries) :
    e.2.isPlain = true := by
  have hbefore : (p.passBefore manifest now event .structured).context.dropped = false :=
    dropped_passBelow hhost manifest now event (by decide) hd
  have hsame : (p.passAfter manifest now event .manifestRoute).event.properties =
      (p.passAfter manifest now event .structured).event.properties :=
    properties_passBelow_of_no_change hhost manifest now event (by decide) (by decide)
  rw [hsame, passAfter_eq hhost, Priority.stage, HostStage.effect_structured, hbefore,
    if_neg Bool.false_ne_true] at he
  obtain ⟨own, hown, rfl⟩ := List.mem_map.mp he
  exact HostStage.isPlain_rendered
    (isPersonal_passBefore_structured hhost manifest now event hbefore hown)

/-- A stage stops an event exactly if it leaves it dropped. So an event that is not dropped has
passed every stage of the host and of the manifest, and all its values are plain, also those held
back. -/
theorem unstopped_event_is_plain :
    let outcome := (p.process manifest now event).1
    (∀ s ∈ p.stages manifest, ∀ around pass,
      (s.run around pass).1 = false ↔ (s.run around pass).2.context.dropped = true) ∧
    (outcome.dropped = false →
      ran (p.surroundings now) (p.stages manifest) (p.entry manifest event) = p.stages manifest ∧
      (∀ first s rest, p.stages manifest = first ++ s :: rest →
        (s.run (p.surroundings now)
          (runAll (p.surroundings now) first (p.entry manifest event))).1 = true) ∧
      ∀ e ∈ outcome.event.properties.entries, e.2.isPlain = true) := by
  intro outcome
  have hsound : ∀ s ∈ p.stages manifest, s.Sound := fun s hs => sound_stages hhost manifest hs
  refine ⟨fun s hs around pass => ?_, fun hd => ?_⟩
  · rw [(hsound s hs).stops, Bool.not_eq_false']
    rfl
  · have hpass : (p.passAfter manifest now event .manifestRoute).context.dropped = false := by
      rw [← dropped_outcome p.registry, ← process_fst]
      exact hd
    have hrun : (runAll (p.surroundings now) (p.stages manifest)
        (p.entry manifest event)).context.dropped = false := by
      rw [← passAfter_route]
      exact hpass
    refine ⟨ran_of_not_dropped hsound hrun, fun first s rest hsplit => ?_, fun e he => ?_⟩
    · rw [hsplit] at hsound hrun
      exact run_fst_of_not_dropped hsound hrun
    · rw [show outcome = _ from p.process_fst manifest now event, event_outcome] at he
      exact isPlain_passAfter_route hhost manifest now event hpass he

end

end Processor

namespace Sample

def report : Event :=
  let owned := pageView.put "Owner" (.personal (.personal (.text "a@b.c")))
  { (owned.put "Layout" (.personal (.structured .null))).put "Sizes" (.structured (.array [])) with
    excluded := .ofList ["Sizes"] }

end Sample

/-- The report goes out with plain values only, and without the personal value that has no text. -/
theorem report_is_plain :
    let p := Processor.standard (.create "s") Sample.registry 0
    let outcome := (p.process Manifest.bundled 0 Sample.report).1
    p.host = HostStage.standard ∧ outcome.dropped = false ∧
      outcome.event.properties.names = ["Owner", "Sizes", sessionProperty, sequenceProperty] ∧
      ∀ e ∈ outcome.event.properties.entries, e.2.isPlain = true := by
  intro p outcome
  have hhost : p.host = HostStage.standard := Processor.host_standard _ _ _
  have hrun : outcome.dropped = false ∧
      outcome.event.properties.names = ["Owner", "Sizes", sessionProperty, sequenceProperty] := by
    rw [show outcome = _ from Processor.process_fst_eq_foldl hhost _ _ _]
    decide +kernel
  exact ⟨hhost, hrun.1, hrun.2,
    ((Processor.unstopped_event_is_plain hhost Manifest.bundled 0 Sample.report).2 hrun.1).2.2⟩

end EventGate
