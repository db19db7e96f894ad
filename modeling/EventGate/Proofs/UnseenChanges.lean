import Mathlib.Data.List.Forall2
import Mathlib.Logic.Relation
import EventGate.Proofs.Bags
import EventGate.Proofs.StandardStages

/-! # Changes that rules do not see

A rule looks up values under names, up to case, and compares their texts or their numbers. So marks
of personal values, the order of properties, the spelling of names and what is held back make no
difference to it. The rendering of structured values makes one only to a rule that asks for a
number, because their texts may be numbers.
-/

namespace EventGate

open Text

/-! ## Values and comparisons -/

namespace PropertyValue

def personalTimes (value : PropertyValue) : Nat → PropertyValue
  | 0 => value
  | n + 1 => .personal (value.personalTimes n)

/-- All that comparisons look at. -/
def compared (value : PropertyValue) : String × Option Binary64 :=
  (value.matchText, value.number?)

theorem compared_personalTimes (value : PropertyValue) (n : Nat) :
    (value.personalTimes n).compared = value.compared := by
  induction n with
  | zero => rfl
  | succ n ih => exact ih

end PropertyValue

theorem HostStage.matchText_rendered (value : PropertyValue) :
    (rendered value).matchText = value.matchText := by
  cases value <;> rfl

namespace Comparison

variable {α : Type} {view : PropertyValue → α} {comparison : Comparison}

def isBound : Comparison → Bool
  | below _ | above _ => true
  | equals _ | present _ | startsWith _ | endsWith _ | contains _ | unknown _ => false

/-- A view of values shows all of them that a comparison looks at. -/
def ReadsBy (comparison : Comparison) (view : PropertyValue → α) : Prop :=
  ∀ v w, view v = view w → comparison.acceptsValue v = comparison.acceptsValue w

theorem readsBy_compared (comparison : Comparison) :
    comparison.ReadsBy PropertyValue.compared := by
  intro v w h
  obtain ⟨htext, hnumber⟩ := Prod.mk.inj h
  cases comparison <;> simp only [acceptsValue, foldedText, htext, hnumber]

theorem readsBy_matchText (h : comparison.isBound = false) :
    comparison.ReadsBy PropertyValue.matchText := by
  intro v w htext
  cases comparison with
  | below bound => simp [isBound] at h
  | above bound => simp [isBound] at h
  | _ => simp only [acceptsValue, foldedText, htext]

theorem ReadsBy.accepts (h : comparison.ReadsBy view) {v w : Option PropertyValue}
    (hview : v.map view = w.map view) : comparison.accepts v = comparison.accepts w := by
  cases v with
  | none => cases w <;> simp_all
  | some v =>
    cases w with
    | none => simp at hview
    | some w => exact h v w (by simpa using hview)

end Comparison

/-! ## Conditions -/

namespace Condition

mutual

def comparisons : Condition → List Comparison
  | all parts => comparisonsIn parts
  | any parts => comparisonsIn parts
  | not part => part.comparisons
  | property _ comparison => [comparison]
  | unknown _ => []

def comparisonsIn : List Condition → List Comparison
  | [] => []
  | part :: rest => part.comparisons ++ comparisonsIn rest

end

mutual

/-- Conditions that differ at most in the case of the names of properties. -/
inductive Respelled : Condition → Condition → Prop
  | all {parts others : List Condition} (h : RespelledEach parts others) :
    Respelled (.all parts) (.all others)
  | any {parts others : List Condition} (h : RespelledEach parts others) :
    Respelled (.any parts) (.any others)
  | not {part other : Condition} (h : Respelled part other) : Respelled (.not part) (.not other)
  | property {name other : String} (h : sameName name other = true) (comparison : Comparison) :
    Respelled (.property name comparison) (.property other comparison)
  | unknown (raw : Json) : Respelled (.unknown raw) (.unknown raw)

inductive RespelledEach : List Condition → List Condition → Prop
  | nil : RespelledEach [] []
  | cons {part other : Condition} {rest others : List Condition} (h : Respelled part other)
    (hrest : RespelledEach rest others) : RespelledEach (part :: rest) (other :: others)

end

end Condition

namespace Event

variable {α : Type} {view : PropertyValue → α} {a b : Event}

/-- Events that show the same under every name, through a view of values. -/
def ShowsAlike (view : PropertyValue → α) (a b : Event) : Prop :=
  ∀ name, (b.properties.get? name).map view = (a.properties.get? name).map view

end Event

namespace Condition

variable {α : Type} {view : PropertyValue → α} {a b : Event}

mutual

/-- A condition asks for nothing of an event but what its comparisons look at. -/
theorem holds_of_showsAlike (hshow : a.ShowsAlike view b) {c d : Condition} (h : c.Respelled d)
    (hreads : ∀ k ∈ c.comparisons, k.ReadsBy view) : d.holds b = c.holds a := by
  cases h with
  | all h =>
    rw [holds, holds]
    exact holdsAll_of_showsAlike hshow h hreads
  | any h =>
    rw [holds, holds]
    exact holdsAny_of_showsAlike hshow h hreads
  | not h => rw [holds, holds, holds_of_showsAlike hshow h hreads]
  | property h comparison =>
    rw [holds, holds, ← Bag.get?_congr b.properties h]
    exact (hreads comparison (by simp [comparisons])).accepts (hshow _)
  | unknown raw => rw [holds, holds]

theorem holdsAll_of_showsAlike (hshow : a.ShowsAlike view b) {parts others : List Condition}
    (h : RespelledEach parts others) (hreads : ∀ k ∈ comparisonsIn parts, k.ReadsBy view) :
    holdsAll b others = holdsAll a parts := by
  cases h with
  | nil => rfl
  | cons h hrest =>
    rw [comparisonsIn, List.forall_mem_append] at hreads
    rw [holdsAll, holdsAll, holds_of_showsAlike hshow h hreads.1,
      holdsAll_of_showsAlike hshow hrest hreads.2]

theorem holdsAny_of_showsAlike (hshow : a.ShowsAlike view b) {parts others : List Condition}
    (h : RespelledEach parts others) (hreads : ∀ k ∈ comparisonsIn parts, k.ReadsBy view) :
    holdsAny b others = holdsAny a parts := by
  cases h with
  | nil => rfl
  | cons h hrest =>
    rw [comparisonsIn, List.forall_mem_append] at hreads
    rw [holdsAny, holdsAny, holds_of_showsAlike hshow h hreads.1,
      holdsAny_of_showsAlike hshow hrest hreads.2]

end

end Condition

/-! ## Changes to events -/

namespace Bag

variable {α : Type} {view : PropertyValue → α} {bag other : Bag}

/-- Entries that agree one by one show the same under every name. -/
theorem map_get?_of_forall₂
    (h : List.Forall₂ (fun e f => sameName e.1 f.1 = true ∧ view f.2 = view e.2)
      bag.entries other.entries) (name : String) :
    (other.get? name).map view = (bag.get? name).map view := by
  unfold get? find?
  generalize bag.entries = entries at h ⊢
  generalize other.entries = others at h ⊢
  induction h with
  | nil => rfl
  | @cons e f _ _ hentry _ ih =>
    rw [List.find?_cons, List.find?_cons, sameName_congr hentry.1]
    cases sameName f.1 name with
    | true => exact congrArg some hentry.2
    | false => exact ih

theorem get?_of_perm (h : other.entries.Perm bag.entries) (name : String) :
    other.get? name = bag.get? name := by
  apply Option.ext
  intro value
  simp only [get?_eq_some_iff, h.mem_iff]

end Bag

namespace Event

/-- One change to an event that its rules do not see. -/
inductive Retouch : Event → Event → Prop
  /-- Values are marked as personal, each of them any number of times. -/
  | mark {event : Event} {bag : Bag}
    (h : List.Forall₂ (fun e f => f.1 = e.1 ∧ ∃ n, f.2 = e.2.personalTimes n)
      event.properties.entries bag.entries) :
    Retouch event { event with properties := bag }
  /-- Properties are held back or given free. -/
  | hold (event : Event) (excluded : NameSet) : Retouch event { event with excluded }
  | reorder {event : Event} {bag : Bag} (h : bag.entries.Perm event.properties.entries) :
    Retouch event { event with properties := bag }
  /-- Names are replaced by others that are the same up to case. -/
  | respell {event : Event} {bag : Bag}
    (h : List.Forall₂ (fun e f => sameName e.1 f.1 = true ∧ f.2 = e.2)
      event.properties.entries bag.entries) :
    Retouch event { event with properties := bag }

variable {σ α β : Type} {view : PropertyValue → α} {a b c : Event}

theorem ShowsAlike.trans (hab : a.ShowsAlike view b) (hbc : b.ShowsAlike view c) :
    a.ShowsAlike view c :=
  fun name => (hbc name).trans (hab name)

/-- Through a narrower view, events that showed alike still do. -/
theorem ShowsAlike.comp (h : a.ShowsAlike view b) (narrow : α → β) :
    a.ShowsAlike (narrow ∘ view) b := by
  intro name
  rw [← Option.map_map, ← Option.map_map, h name]

theorem Retouch.showsAlike (h : a.Retouch b) : a.ShowsAlike PropertyValue.compared b := by
  cases h with
  | mark h =>
    apply Bag.map_get?_of_forall₂
    refine h.imp fun e f hentry => ?_
    obtain ⟨hname, n, hvalue⟩ := hentry
    rw [hname, hvalue]
    exact ⟨sameName_refl e.1, e.2.compared_personalTimes n⟩
  | hold excluded => exact fun name => rfl
  | reorder h => exact fun name => by rw [Bag.get?_of_perm h]
  | respell h =>
    apply Bag.map_get?_of_forall₂
    exact h.imp fun e f hentry => ⟨hentry.1, by rw [hentry.2]⟩

theorem showsAlike_of_retouched (h : Relation.ReflTransGen Retouch a b) :
    a.ShowsAlike PropertyValue.compared b := by
  induction h with
  | refl => exact fun name => rfl
  | tail _ hlast ih => exact ih.trans hlast.showsAlike

theorem showsAlike_structured (around : Surroundings) (pass : Pass σ) :
    pass.event.ShowsAlike PropertyValue.matchText
      (HostStage.structured.effect around pass).event := by
  rw [HostStage.effect_structured]
  split
  · exact fun name => rfl
  · apply Bag.map_get?_of_forall₂
    show List.Forall₂ _ _ (pass.event.properties.entries.map _)
    rw [List.forall₂_map_right_iff, List.forall₂_same]
    exact fun e _ => ⟨sameName_refl e.1, HostStage.matchText_rendered e.2⟩

end Event

/-- A condition holds of an event as before when values are marked as personal, properties are held
back or given free, moved or spelled otherwise, and names in the condition are spelled otherwise.
If it asks for no number, it also holds as before when structured values have been rendered. -/
theorem Condition.holds_of_retouched {c d : Condition} (hc : c.Respelled d) {a b : Event}
    (h : Relation.ReflTransGen Event.Retouch a b) :
    d.holds b = c.holds a ∧
      ((∀ k ∈ c.comparisons, k.isBound = false) →
        ∀ {σ : Type} (around : Surroundings) (pass : Pass σ), pass.event = b →
          d.holds (HostStage.structured.effect around pass).event = c.holds a) := by
  have hshow : a.ShowsAlike PropertyValue.compared b := Event.showsAlike_of_retouched h
  refine ⟨holds_of_showsAlike hshow hc fun k _ => k.readsBy_compared, ?_⟩
  intro hbound σ around pass hpass
  have htext : a.ShowsAlike PropertyValue.matchText b := hshow.comp Prod.fst
  have hrendered := Event.showsAlike_structured around pass
  rw [hpass] at hrendered
  exact holds_of_showsAlike (htext.trans hrendered) hc fun k hk =>
    Comparison.readsBy_matchText (hbound k hk)

/-- The text of a structured value may be a number, so the rendering shows in a bound. -/
example :
    (Comparison.above (.ofNat 3)).acceptsValue (.structured (.number (.whole 5))) = false ∧
      (Comparison.above (.ofNat 3)).acceptsValue
        (HostStage.rendered (.structured (.number (.whole 5)))) = true := by
  decide +kernel

namespace Sample

def purchaseWith (properties : Bag) (excluded : List String) : Event :=
  ⟨"1", "shop/purchase", 0, .normal, .trace, none, false, .empty, properties, .ofList excluded⟩

def items : PropertyValue := .structured (.array [.number (.whole 7)])

def bought : Bag :=
  ⟨[("Owner", .text "Ann"), ("Size", .number (.ofNat 3)), ("Items", items)], by decide +kernel⟩

def markedBought : Bag :=
  ⟨[("Owner", .personal (.personal (.text "Ann"))), ("Size", .number (.ofNat 3)),
    ("Items", items)], by decide +kernel⟩

def respelledBought : Bag :=
  ⟨[("owner", .personal (.personal (.text "Ann"))), ("size", .number (.ofNat 3)),
    ("ITEMS", items)], by decide +kernel⟩

def reversedBought : Bag :=
  ⟨respelledBought.entries.reverse, by decide +kernel⟩

/-- A condition that looks at all three properties, under names of a given spelling. -/
def ofAnn (owner size items : String) : Condition :=
  .all [.property owner (.startsWith "an"), .not (.property size (.equals "4")),
    .any [.unknown .null, .property items (.equals "[7]")]]

end Sample

/-- The purchase meets the condition as well with marks, in another order and spelling, without its
size, and with its items as a text. -/
theorem purchase_found_in_disguise :
    let a := Sample.purchaseWith Sample.bought []
    let b := Sample.purchaseWith Sample.reversedBought ["size"]
    let c := Sample.ofAnn "Owner" "Size" "Items"
    let d := Sample.ofAnn "OWNER" "SIZE" "ITEMS"
    c.Respelled d ∧ Relation.ReflTransGen Event.Retouch a b ∧
      (∀ k ∈ c.comparisons, k.isBound = false) ∧ c.holds a = true ∧ d.holds b = true ∧
      d.holds (HostStage.structured.effect ⟨.create "s", [], 0⟩
        ⟨b, .create .bundled, ()⟩).event = true := by
  intro a b c d
  have hspelled : c.Respelled d :=
    .all (.cons (.property (by decide) _) (.cons (.not (.property (by decide) _))
      (.cons (.any (.cons (.unknown _) (.cons (.property (by decide) _) .nil))) .nil)))
  have hmark : a.Retouch (Sample.purchaseWith Sample.markedBought []) :=
    .mark (.cons ⟨rfl, 2, rfl⟩ (.cons ⟨rfl, 0, rfl⟩ (.cons ⟨rfl, 0, rfl⟩ .nil)))
  have hrespell : (Sample.purchaseWith Sample.markedBought []).Retouch
      (Sample.purchaseWith Sample.respelledBought []) :=
    .respell (.cons ⟨by decide, rfl⟩ (.cons ⟨by decide, rfl⟩ (.cons ⟨by decide, rfl⟩ .nil)))
  have hreorder : (Sample.purchaseWith Sample.respelledBought []).Retouch
      (Sample.purchaseWith Sample.reversedBought []) :=
    .reorder (List.reverse_perm _)
  have hretouched : Relation.ReflTransGen Event.Retouch a b :=
    (((Relation.ReflTransGen.single hmark).tail hrespell).tail hreorder).tail
      (.hold _ (.ofList ["size"]))
  have hbound : ∀ k ∈ c.comparisons, k.isBound = false := by
    simp [c, Sample.ofAnn, Condition.comparisons, Condition.comparisonsIn, Comparison.isBound]
  have hholds : c.holds a = true := by decide +kernel
  obtain ⟨hkept, hrendered⟩ := Condition.holds_of_retouched hspelled hretouched
  rw [hholds] at hkept hrendered
  exact ⟨hspelled, hretouched, hbound, hholds, hkept, hrendered hbound _ _ rfl⟩

end EventGate
