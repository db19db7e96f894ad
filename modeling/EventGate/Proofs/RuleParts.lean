import EventGate.Proofs.TreeWalk
import EventGate.Rule.Action

/-! # The parts of a rule

A rule can be used exactly if each of its parts passes its own check: the effect, the condition with
all that is in it, and the targets of a route with their arguments.
-/

namespace EventGate

/-! ## Conditions -/

namespace Condition

def Passes (condition : Condition) : Prop :=
  ∀ part ∈ condition.tree.preorder, part.check = .ok ()

theorem trees_eq_map (parts : List Condition) : trees parts = parts.map tree := by
  induction parts with
  | nil => rw [trees, List.map_nil]
  | cons part rest ih => rw [trees, ih, List.map_cons]

theorem passes_clause_iff {clause : Condition} {parts : List Condition}
    (htree : clause.tree = .node (.condition clause) (trees parts))
    (hown : clause.check = .ok () ↔ parts ≠ []) :
    clause.Passes ↔ parts ≠ [] ∧ ∀ part ∈ parts, part.Passes := by
  rw [Passes, htree, Tree.forall_mem_preorder, trees_eq_map, List.forall_mem_map]
  exact and_congr_left' hown

theorem passes_all_iff {parts : List Condition} :
    (all parts).Passes ↔ parts ≠ [] ∧ ∀ part ∈ parts, part.Passes := by
  have hown : (all parts).check = .ok () ↔ parts ≠ [] := by cases parts <;> simp [check]
  exact passes_clause_iff (by rw [tree]) hown

theorem passes_any_iff {parts : List Condition} :
    (any parts).Passes ↔ parts ≠ [] ∧ ∀ part ∈ parts, part.Passes := by
  have hown : (any parts).check = .ok () ↔ parts ≠ [] := by cases parts <;> simp [check]
  exact passes_clause_iff (by rw [tree]) hown

theorem passes_not_iff {part : Condition} : (not part).Passes ↔ part.Passes := by
  have hown : (RulePart.condition (not part)).check = .ok () := rfl
  rw [Passes, tree, Tree.forall_mem_preorder, List.forall_mem_singleton, and_iff_right hown]
  rfl

theorem passes_property_iff {name : String} {comparison : Comparison} :
    (property name comparison).Passes ↔ name ≠ "" ∧ comparison.check = .ok () := by
  have hown : (RulePart.condition (property name comparison)).check = .ok () ↔ name ≠ "" := by
    simp [RulePart.check, check]
  rw [Passes, tree, Tree.forall_mem_preorder, hown, List.forall_mem_singleton,
    Tree.forall_mem_preorder, and_iff_left (fun _ h => absurd h List.not_mem_nil)]
  rfl

theorem not_passes_unknown (raw : Json) : ¬ (unknown raw).Passes := by
  intro h
  have hown : (RulePart.condition (unknown raw)).check = .ok () :=
    h _ (by rw [tree, Tree.mem_preorder_iff]; exact .inl rfl)
  exact nomatch hown

end Condition

/-! ## Rules -/

def RouteTarget.Passes (target : RouteTarget) : Prop :=
  target.check = .ok () ∧ target.argument.check = .ok ()

theorem RouteTarget.forall_mem_preorder_tree {target : RouteTarget} :
    (∀ part ∈ target.tree.preorder, part.check = .ok ()) ↔ target.Passes := by
  rw [tree, Tree.forall_mem_preorder, List.forall_mem_singleton, Tree.forall_mem_preorder,
    and_iff_left (fun _ h => absurd h List.not_mem_nil)]
  rfl

/-- The effect of a rule passes its check, and so do the targets of a route. -/
structure Effect.Passes (effect : Effect) : Prop where
  own : effect.check = .ok ()
  targets : ∀ targets, effect = .route targets → ∀ target ∈ targets, target.Passes

namespace Action

/-- The part of a rule's tree below the rule itself that belongs to its effect. -/
theorem tree_eq (action : Action) :
    action.tree = .node (.action action)
      ((action.condition.map Condition.tree).toList ++
        match action.effect with
        | .route targets => targets.map RouteTarget.tree
        | _ => []) := rfl

theorem check_eq_ok_iff {action : Action} :
    action.check = .ok () ↔
      (∀ condition, action.condition = some condition → condition.Passes) ∧
        action.effect.Passes := by
  have hcondition : (∀ tree ∈ (action.condition.map Condition.tree).toList,
      ∀ part ∈ tree.preorder, part.check = .ok ()) ↔
        ∀ condition, action.condition = some condition → condition.Passes := by
    cases action.condition with
    | none => simp
    | some condition => simp [Condition.Passes]
  have hown : (RulePart.action action).check = action.effect.check := rfl
  rw [check, Tree.check_eq_ok_iff, tree_eq, Tree.forall_mem_preorder, List.forall_mem_append,
    hcondition, hown, and_left_comm]
  refine and_congr_right fun _ => ?_
  constructor
  · rintro ⟨heffect, htargets⟩
    refine ⟨heffect, fun targets hroute target hmem => ?_⟩
    rw [hroute] at htargets
    exact RouteTarget.forall_mem_preorder_tree.mp
      (htargets target.tree (List.mem_map_of_mem hmem))
  · rintro ⟨heffect, htargets⟩
    refine ⟨heffect, ?_⟩
    cases hroute : action.effect with
    | route targets =>
      intro tree htree
      obtain ⟨target, hmem, rfl⟩ := List.mem_map.mp htree
      exact RouteTarget.forall_mem_preorder_tree.mpr (htargets targets hroute target hmem)
    | _ => exact fun _ h => absurd h List.not_mem_nil

end Action

end EventGate
