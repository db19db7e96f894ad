import EventGate.Proofs.Accounting
import EventGate.Proofs.Numbers
import EventGate.Proofs.PersonalValues

/-! # Stamps

What is stamped on an event is among its properties to the end. Only rules of the manifest that mark
it as personal can disguise it; the measurement of a metric is stamped behind them.
-/

namespace EventGate

open Stage Text

variable {κ : Type}

namespace Step

/-- The properties of the event of a call as its outcome shows them. -/
def entries (s : Step HostState κ) : List Entry :=
  s.outcome.event.properties.entries

/-- Whether the event of a call gets to the rules that mark values, and they mark a name of it. -/
def marks (s : Step HostState κ) (name : String) : Bool :=
  !(s.passBefore .manifestPersonal).context.dropped &&
    s.call.manifest.marksPersonal s.stamped name

/-- What becomes of a stamp with this text: rules make it a personal value, and the hashing makes
this a digest if the event gets there. -/
def stampAtEnd (s : Step HostState κ) (name text : String) (stamp : PropertyValue) :
    PropertyValue :=
  if s.marks name then
    if (s.passBefore .personal).context.dropped then .personal stamp
    else .text (Digest.ofText text)
  else
    stamp

/-! ## What is stamped -/

/-- No stamp has the name of a raw text. -/
theorem isOwn_stamp : ∀ name ∈ [sessionProperty, sequenceProperty, HostStage.metricNameProperty,
    HostStage.metricValueProperty], Naming.IsOwn name := by
  have hsuffix : ∀ name ∈ [sessionProperty, sequenceProperty, HostStage.metricNameProperty,
      HostStage.metricValueProperty], ¬ ".nothashed".toList <:+ foldChars name.toList := by
    decide
  exact fun name hname => Naming.isOwn_of_not_suffix (hsuffix name hname)

theorem mem_stamped (s : Step HostState κ) :
    (sessionProperty, .text s.call.session.id) ∈ s.stamped.properties.entries ∧
      (sequenceProperty, .number (.ofNat (s.processor.sequence + 1))) ∈
        s.stamped.properties.entries := by
  have hother : sameName sessionProperty sequenceProperty = false := by decide
  exact ⟨Bag.mem_insert.mpr (.inr ⟨Bag.mem_insert.mpr (.inl rfl), hother⟩),
    Bag.mem_insert.mpr (.inl rfl)⟩

section

variable {s : Step HostState κ} (hhost : s.serving.host = HostStage.standard)

include hhost

/-! ## Behind the measurement -/

/-- A plain value that is there behind the hashing is there at the end. -/
theorem mem_entries_of_hashed {e : Entry} (hplain : e.2.isPlain = true)
    (he : e ∈ (s.passAfter .personal).event.properties.entries) : e ∈ s.entries := by
  have hbefore : (s.passBefore .structured).event.properties =
      (s.passAfter .personal).event.properties :=
    Processor.properties_passBelow_of_no_change hhost _ _ _ (by decide) (by decide)
  have hrendered : e ∈ (s.passAfter .structured).event.properties.entries := by
    rw [passAfter_eq hhost, Priority.stage, HostStage.effect_structured]
    split
    · rw [hbefore]
      exact he
    · have hsame : (e.1, HostStage.rendered e.2) = e := by
        rw [HostStage.rendered_of_isPlain hplain]
      refine List.mem_map.mpr ⟨e, ?_, hsame⟩
      rw [hbefore]
      exact he
  have hend : (s.passAfter .manifestRoute).event.properties =
      (s.passAfter .structured).event.properties :=
    Processor.properties_passBelow_of_no_change hhost _ _ _ (by decide) (by decide)
  rw [entries, outcome, Processor.process_fst, Processor.event_outcome]
  exact hend ▸ hrendered

theorem properties_passBefore_personal :
    (s.passBefore .personal).event.properties = (s.passAfter .metric).event.properties :=
  Processor.properties_passBelow_of_no_change hhost _ _ _ (by decide) (by decide)

/-- A plain value of an own name that is there behind the measurement is there at the end. -/
theorem mem_entries_of_measured {e : Entry} (hname : Naming.IsOwn e.1)
    (hplain : e.2.isPlain = true) (he : e ∈ (s.passAfter .metric).event.properties.entries) :
    e ∈ s.entries := by
  refine mem_entries_of_hashed hhost hplain ?_
  rw [← properties_passBefore_personal hhost] at he
  rw [passAfter_eq hhost, Priority.stage, HostStage.effect_personal]
  split
  · exact he
  · exact Personal.mem_hashAllWith hname (PropertyValue.isPersonal_of_isPlain hplain) he

/-- Of a personal value there is the digest at the end, or the value itself if the event was dropped
before the hashing. -/
theorem disguised_mem_entries {name text : String} {value : PropertyValue}
    (hname : Naming.IsOwn name) (htext : value.invariantText = .ok text)
    (he : (name, .personal value) ∈ (s.passAfter .metric).event.properties.entries) :
    (name, if (s.passBefore .personal).context.dropped then .personal value
      else .text (Digest.ofText text)) ∈ s.entries := by
  rw [← properties_passBefore_personal hhost] at he
  cases hd : (s.passBefore .personal).context.dropped with
  | true =>
    have hend : s.passAfter .manifestRoute = s.passBefore .personal :=
      Processor.passBelow_of_dropped hhost _ _ _ (by decide) hd
    rw [entries, outcome, Processor.process_fst, Processor.event_outcome]
    exact congrArg (fun pass : Pass HostState => pass.event.properties.entries) hend ▸ he
  | false =>
    have hdigest : (name, .text (Digest.ofText text)) ∈
        (s.passAfter .personal).event.properties.entries := by
      rw [passAfter_eq hhost, Priority.stage, HostStage.effect_personal, hd,
        if_neg Bool.false_ne_true]
      exact Personal.digest_mem_hashAllWith hname he htext
    rw [if_neg Bool.false_ne_true]
    exact mem_entries_of_hashed hhost rfl hdigest

/-! ## Before the measurement -/

theorem mem_passAfter_manifestPersonal {name : String} {value : PropertyValue}
    (hplain : value.isPlain = true) (he : (name, value) ∈ s.stamped.properties.entries) :
    (name, if s.marks name then .personal value else value) ∈
      (s.passAfter .manifestPersonal).event.properties.entries := by
  have hprops : (s.passBefore .manifestPersonal).event.properties = s.stamped.properties :=
    Processor.properties_passBelow hhost _ _ _ (Nat.le_refl _)
  rw [passAfter_eq hhost, Priority.stage, ManifestStage.effect_markPersonal, marks]
  cases (s.passBefore .manifestPersonal).context.dropped with
  | true => exact hprops ▸ he
  | false =>
    rw [← hprops] at he
    have hmem := ManifestStage.mem_markedBag s.call.manifest he
    have hrules : s.call.manifest.marksPersonal (s.passBefore .manifestPersonal).event name =
        s.call.manifest.marksPersonal s.stamped name := by
      simp only [Manifest.marksPersonal, Action.applies_congr hprops]
    rw [ManifestStage.marked_of_isPlain hplain, hrules] at hmem
    exact hmem

theorem mem_passAfter_metric {name : String} {value : PropertyValue}
    (hnames : sameName name HostStage.metricNameProperty = false ∧
      sameName name HostStage.metricValueProperty = false)
    (he : (name, value) ∈ (s.passAfter .manifestPersonal).event.properties.entries) :
    (name, value) ∈ (s.passAfter .metric).event.properties.entries := by
  have hbefore : (s.passBefore .metric).event.properties =
      (s.passAfter .manifestPersonal).event.properties :=
    Processor.properties_passBelow_of_no_change hhost _ _ _ (by decide) (by decide)
  rw [← hbefore] at he
  rw [passAfter_eq hhost, Priority.stage, HostStage.effect_metric]
  split
  · exact he
  · split
    · exact he
    · exact Bag.mem_insert.mpr (.inr ⟨Bag.mem_insert.mpr (.inr ⟨he, hnames.1⟩), hnames.2⟩)

/-! ## The end -/

theorem stampAtEnd_mem_entries {name text : String} {value : PropertyValue}
    (hname : Naming.IsOwn name)
    (hnames : sameName name HostStage.metricNameProperty = false ∧
      sameName name HostStage.metricValueProperty = false)
    (hplain : value.isPlain = true)
    (htext : s.marks name = true → value.invariantText = .ok text)
    (he : (name, value) ∈ s.stamped.properties.entries) :
    (name, s.stampAtEnd name text value) ∈ s.entries := by
  have hmem := mem_passAfter_metric hhost hnames (mem_passAfter_manifestPersonal hhost hplain he)
  rw [stampAtEnd]
  cases hmarks : s.marks name with
  | true =>
    rw [hmarks] at hmem
    exact disguised_mem_entries hhost hname (htext hmarks) hmem
  | false =>
    rw [hmarks] at hmem
    exact mem_entries_of_measured hhost hname hplain hmem

theorem measurement_mem_entries (hkind : s.call.event.kind = .metric)
    (hd : s.outcome.dropped = false) :
    ∃ metric, s.call.event.metric = some metric ∧ metric.value.isFinite = true ∧
      (HostStage.metricNameProperty, .text metric.name) ∈ s.entries ∧
      (HostStage.metricValueProperty, .number metric.value) ∈ s.entries := by
  rw [dropped_outcome] at hd
  have hpart {α : Type} (part : Event → α) (hcore : ∀ e : Event, part e.core = part e) :
      part (s.passBefore .metric).event = part s.call.event :=
    Processor.part_passBelow hhost _ _ _ part hcore _
  have hbefore : (s.passBefore .metric).context.dropped = false :=
    Processor.dropped_passBelow hhost _ _ _ (by decide) hd
  have hafter : (s.passAfter .metric).context.dropped = false :=
    Processor.dropped_passBelow hhost _ _ _ (by decide) hd
  have hstage := passAfter_eq hhost .metric
  rw [Priority.stage, HostStage.effect_metric, hbefore, hpart Event.kind fun _ => rfl, hkind,
    if_neg (by decide)] at hstage
  cases hmeasured : HostStage.measurement? (s.passBefore .metric).event with
  | none =>
    rw [hmeasured] at hstage
    rw [hstage] at hafter
    exact absurd hafter.symm Bool.false_ne_true
  | some metric =>
    rw [hmeasured] at hstage
    rw [HostStage.measurement?, hpart Event.metric fun _ => rfl, Option.filter_eq_some_iff]
      at hmeasured
    have hother : sameName HostStage.metricNameProperty HostStage.metricValueProperty = false := by
      decide
    have hname : (HostStage.metricNameProperty, .text metric.name) ∈
        (s.passAfter .metric).event.properties.entries := by
      rw [hstage]
      exact Bag.mem_insert.mpr (.inr ⟨Bag.mem_insert.mpr (.inl rfl), hother⟩)
    have hvalue : (HostStage.metricValueProperty, .number metric.value) ∈
        (s.passAfter .metric).event.properties.entries := by
      rw [hstage]
      exact Bag.mem_insert.mpr (.inl rfl)
    exact ⟨metric, hmeasured.1, hmeasured.2,
      mem_entries_of_measured hhost (isOwn_stamp _ (by simp)) rfl hname,
      mem_entries_of_measured hhost (isOwn_stamp _ (by simp)) rfl hvalue⟩

end

end Step

namespace Processor

/-- The calls of a run are numbered one after another. -/
theorem sequence_of_steps {σ : Type} {p : Processor σ κ} {calls : List (Call κ)} {k : Nat}
    {s : Step σ κ} (hs : (p.steps calls)[k]? = some s) :
    s.processor.sequence = p.sequence + k := by
  induction calls generalizing p k with
  | nil => cases hs
  | cons call rest ih =>
    cases k with
    | zero =>
      cases hs
      rfl
    | succ k =>
      have hnext : (Step.next ⟨p, call⟩).sequence = p.sequence + 1 := rfl
      rw [ih hs, hnext]
      omega

variable {p : Processor HostState κ} (hhost : p.host = HostStage.standard)
  {calls : List (Call κ)}

include hhost

theorem serving_host {k : Nat} {s : Step HostState κ} (hs : (p.steps calls)[k]? = some s) :
    s.serving.host = HostStage.standard :=
  (host_of_mem_steps (List.mem_of_getElem? hs)).trans hhost

theorem sessionStamp_mem_entries {k : Nat} {s : Step HostState κ}
    (hs : (p.steps calls)[k]? = some s) :
    (sessionProperty, s.stampAtEnd sessionProperty s.call.session.id (.text s.call.session.id)) ∈
      s.entries :=
  Step.stampAtEnd_mem_entries (serving_host hhost hs) (Step.isOwn_stamp _ (by simp)) (by decide)
    rfl (fun _ => rfl) s.mem_stamped.1

theorem sequenceStamp_mem_entries (hnew : p.sequence = 0) {k : Nat} {s : Step HostState κ}
    (hs : (p.steps calls)[k]? = some s)
    (hsize : s.marks sequenceProperty = true → k + 1 < UInt64.size) :
    (sequenceProperty, s.stampAtEnd sequenceProperty
      (PropertyValue.numberText (.ofNat (k + 1))) (.number (.ofNat (k + 1)))) ∈ s.entries := by
  have hnumber : s.processor.sequence + 1 = k + 1 := by
    rw [sequence_of_steps hs, hnew, Nat.zero_add]
  have hstamped := s.mem_stamped.2
  rw [hnumber] at hstamped
  have htext : s.marks sequenceProperty = true →
      (PropertyValue.number (.ofNat (k + 1))).invariantText =
        .ok (PropertyValue.numberText (.ofNat (k + 1))) := by
    intro hmarks
    rw [PropertyValue.invariantText, if_pos (Binary64.isFinite_ofNat (hsize hmarks))]
  exact Step.stampAtEnd_mem_entries (serving_host hhost hs) (Step.isOwn_stamp _ (by simp))
    (by decide) rfl htext hstamped

/-- The number that an outcome shows for its call, if it shows one, is that of the call. -/
theorem number_eq (hnew : p.sequence = 0) {k : Nat} {s : Step HostState κ}
    (hs : (p.steps calls)[k]? = some s) (hsize : k + 1 < UInt64.size) {x : Binary64}
    (hx : (sequenceProperty, .number x) ∈ s.entries) : x = .ofNat (k + 1) := by
  have hstamp := sequenceStamp_mem_entries hhost hnew hs fun _ => hsize
  have heq := congrArg Prod.snd (Bag.eq_of_sameName hx hstamp (sameName_refl _))
  dsimp only [Step.stampAtEnd] at heq
  split at heq
  · split at heq <;> cases heq
  · cases heq
    rfl

/-- In a run from the start, the outcome of each call has the id of its session and its own number
among its properties, unless rules of the manifest mark these as personal; and that of a metric
event that is not dropped has its measurement, whatever the rules mark. The numbers grow from call
to call. -/
theorem stamps_survive (calls : List (Call κ)) (hnew : p.sequence = 0) :
    (∀ k s, (p.steps calls)[k]? = some s →
      (sessionProperty,
        s.stampAtEnd sessionProperty s.call.session.id (.text s.call.session.id)) ∈ s.entries ∧
      ((s.marks sequenceProperty = true → k + 1 < UInt64.size) →
        (sequenceProperty, s.stampAtEnd sequenceProperty
          (PropertyValue.numberText (.ofNat (k + 1))) (.number (.ofNat (k + 1)))) ∈ s.entries) ∧
      (s.call.event.kind = .metric → s.outcome.dropped = false →
        ∃ metric, s.call.event.metric = some metric ∧ metric.value.isFinite = true ∧
          (HostStage.metricNameProperty, .text metric.name) ∈ s.entries ∧
          (HostStage.metricValueProperty, .number metric.value) ∈ s.entries)) ∧
    (calls.length < 1 <<< 53 →
      ∀ (i j : Nat) (s t : Step HostState κ) (x y : Binary64), i < j →
      (p.steps calls)[i]? = some s → (p.steps calls)[j]? = some t →
      (sequenceProperty, .number x) ∈ s.entries → (sequenceProperty, .number y) ∈ t.entries →
      x.less y = true) := by
  refine ⟨fun k s hs => ⟨?session, ?sequence, ?metric⟩, ?numbers⟩
  case session => exact sessionStamp_mem_entries hhost hs
  case sequence => exact sequenceStamp_mem_entries hhost hnew hs
  case metric => exact Step.measurement_mem_entries (serving_host hhost hs)
  case numbers =>
    intro hlength i j s t x y hij hs ht hx hy
    have hj : j + 1 < 1 <<< 53 := by
      have hlt := (List.getElem?_eq_some_iff.mp ht).1
      rw [length_steps] at hlt
      omega
    have hsize : 1 <<< 53 ≤ UInt64.size := by decide
    rw [number_eq hhost hnew hs (by omega) hx, number_eq hhost hnew ht (by omega) hy]
    exact Binary64.less_ofNat (Nat.succ_lt_succ hij) hj

end Processor

namespace Sample

def failures : Event :=
  { pageView with kind := .metric, metric := some ⟨"failures", .zero⟩ }

def marking : Manifest :=
  { Manifest.bundled with actions :=
      [⟨none, .markPersonal ["reserved.sessionid", "Reserved.Sequence", "Reserved.Metric.Name"]⟩] }

end Sample

/-- Under the rule, a page view behind a metric event comes to have a digest for its number. -/
theorem failures_and_page_view_keep_stamps :
    let p := Processor.standard (.create "s") Sample.registry 0
    let first : Step HostState Nat := ⟨p, Sample.post 10 Manifest.bundled Sample.failures⟩
    let second : Step HostState Nat := ⟨first.next, Sample.post 20 Sample.marking Sample.pageView⟩
    p.host = HostStage.standard ∧ p.sequence = 0 ∧
      p.steps [first.call, second.call] = [first, second] ∧
      first.outcome.dropped = false ∧
      (sessionProperty, .text "s") ∈ first.entries ∧
      (sequenceProperty, .number (.ofNat 1)) ∈ first.entries ∧
      (HostStage.metricNameProperty, .text "failures") ∈ first.entries ∧
      (HostStage.metricValueProperty, .number .zero) ∈ first.entries ∧
      (sequenceProperty, .text (Digest.ofText "2")) ∈ second.entries := by
  intro p first second
  have hhost : p.host = HostStage.standard := Processor.host_standard _ _ _
  have hspec := (Processor.stamps_survive hhost [first.call, second.call] rfl).1
  obtain ⟨hsession, hnumber, hmetric⟩ := hspec 0 first rfl
  obtain ⟨-, hmarked, -⟩ := hspec 1 second rfl
  have hunmarked (name : String) : first.marks name = false := Bool.and_false _
  have hdelivered : first.outcome.dropped = false := by
    rw [Step.outcome, Processor.process_fst_eq_foldl (p := first.serving) hhost]
    decide +kernel
  obtain ⟨metric, hown, -, hname, hvalue⟩ := hmetric rfl hdelivered
  obtain rfl : _ = metric := Option.some.inj hown
  have hmarks : second.marks sequenceProperty = true ∧
      (second.passBefore .personal).context.dropped = false := by
    rw [Step.marks, Step.passBefore, Step.passBefore, Step.passBelow_eq_foldl (s := second) hhost,
      Step.passBelow_eq_foldl (s := second) hhost]
    decide +kernel
  have htext : PropertyValue.numberText (.ofNat 2) = "2" := by decide +kernel
  refine ⟨hhost, rfl, rfl, hdelivered, ?_, ?_, hname, hvalue, ?_⟩
  · rw [Step.stampAtEnd, hunmarked] at hsession
    exact hsession
  · have hplain := hnumber fun h => absurd h (by rw [hunmarked]; decide)
    rw [Step.stampAtEnd, hunmarked] at hplain
    exact hplain
  · have hdigest := hmarked fun _ => by decide
    rw [Step.stampAtEnd, hmarks.1, hmarks.2, htext] at hdigest
    exact hdigest

/-- The page view goes out without its number, as the rule marks it. -/
theorem page_view_without_number :
    let p := Processor.standard (.create "s") Sample.registry 0
    let only : Step HostState Nat := ⟨p, Sample.post 10 Sample.marking Sample.pageView⟩
    p.steps [only.call] = [only] ∧ only.outcome.dropped = false ∧
      only.outcome.delivered = ["Audit"] ∧
      (sequenceProperty, .number (.ofNat 1)) ∉ only.entries := by
  intro p only
  have hhost : only.serving.host = HostStage.standard := Processor.host_standard _ _ _
  have hdelivered : only.outcome.dropped = false ∧ only.outcome.delivered = ["Audit"] := by
    rw [Step.outcome, Processor.process_fst_eq_foldl hhost]
    decide +kernel
  have hmarks : only.marks sequenceProperty = true ∧
      (only.passBefore .personal).context.dropped = false := by
    rw [Step.marks, Step.passBefore, Step.passBefore, Step.passBelow_eq_foldl hhost,
      Step.passBelow_eq_foldl hhost]
    decide +kernel
  have hrun : (p.steps [only.call])[0]? = some only := rfl
  have hdigest := Processor.sequenceStamp_mem_entries hhost rfl hrun fun _ => by decide
  rw [Step.stampAtEnd, hmarks.1, hmarks.2] at hdigest
  refine ⟨rfl, hdelivered.1, hdelivered.2, fun hnumber => ?_⟩
  cases congrArg Prod.snd (Bag.eq_of_sameName hnumber hdigest (sameName_refl _))

end EventGate
