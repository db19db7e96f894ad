import EventGate.Pipeline.ManifestStage

/-! # What rules see

A rule sees the properties of an event, also those held back, and nothing else of it. A test of the
rules of a kind is one of the actions of a manifest.
-/

namespace EventGate

open Text

/-! ## Conditions -/

namespace Condition

mutual

/-- Events with the same properties meet the same conditions. -/
theorem holds_congr {a b : Event} (h : a.properties = b.properties) (condition : Condition) :
    condition.holds a = condition.holds b := by
  cases condition with
  | all parts => exact holdsAll_congr h parts
  | any parts => exact holdsAny_congr h parts
  | not part => rw [holds, holds, holds_congr h part]
  | property name comparison => rw [holds, holds, h]
  | unknown raw => rw [holds, holds]

theorem holdsAll_congr {a b : Event} (h : a.properties = b.properties)
    (parts : List Condition) : holdsAll a parts = holdsAll b parts := by
  cases parts with
  | nil => rw [holdsAll, holdsAll]
  | cons part rest => rw [holdsAll, holdsAll, holds_congr h part, holdsAll_congr h rest]

theorem holdsAny_congr {a b : Event} (h : a.properties = b.properties)
    (parts : List Condition) : holdsAny a parts = holdsAny b parts := by
  cases parts with
  | nil => rw [holdsAny, holdsAny]
  | cons part rest => rw [holdsAny, holdsAny, holds_congr h part, holdsAny_congr h rest]

end

end Condition

theorem Action.applies_congr {a b : Event} (h : a.properties = b.properties) (action : Action) :
    action.applies a = action.applies b := by
  unfold applies
  cases action.condition with
  | none => rfl
  | some condition => exact condition.holds_congr h

theorem Guarded.applies_congr {α : Type} {a b : Event} (h : a.properties = b.properties)
    (rule : Guarded α) : rule.applies a = rule.applies b := by
  unfold applies
  cases rule.condition with
  | none => rfl
  | some condition => exact condition.holds_congr h

theorem ManifestStage.namesBy_congr {a b : Event} (h : a.properties = b.properties)
    (rules : List (Guarded (List String))) : namesBy rules a = namesBy rules b := by
  simp only [namesBy, Guarded.applies_congr h]

/-! ## Rules of a kind -/

namespace Guarded

variable {α : Type}

/-- A test of the rules of a kind is a test of the actions of this kind. -/
theorem any_select (pick : Effect → Option α) (test : Guarded α → Bool) (actions : List Action) :
    (select pick actions).any test =
      actions.any fun action =>
        match pick action.effect with
        | some payload => test ⟨action.condition, payload⟩
        | none => false := by
  induction actions with
  | nil => rfl
  | cons action rest ih =>
    unfold select at ih ⊢
    rw [List.filterMap_cons, List.any_cons, ← ih]
    cases pick action.effect <;> rfl

theorem flatMap_select {β : Type} (pick : Effect → Option α) (images : Guarded α → List β)
    (actions : List Action) :
    (select pick actions).flatMap images =
      actions.flatMap fun action =>
        match pick action.effect with
        | some payload => images ⟨action.condition, payload⟩
        | none => [] := by
  induction actions with
  | nil => rfl
  | cons action rest ih =>
    unfold select at ih ⊢
    rw [List.filterMap_cons, List.flatMap_cons, ← ih]
    cases pick action.effect <;> rfl

end Guarded

end EventGate
