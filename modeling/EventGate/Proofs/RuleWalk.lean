import EventGate.Pipeline.ManifestStage
import EventGate.Proofs.RuleParts

/-! # The walk over a rule

A walk keeps the subtrees to be looked at on a stack, and looks at the nodes of the tree in
preorder until one has a fault. The tree of a rule holds the rule, all of its condition down to the
comparisons, and the targets of a route with their arguments.
-/

namespace EventGate

namespace Tree

variable {α ε : Type} {valid : α → Except ε Unit}

theorem scan_of_valid {nodes : List α} (h : ∀ node ∈ nodes, valid node = .ok ()) :
    scan valid nodes = (nodes, .ok ()) := by
  induction nodes with
  | nil => rfl
  | cons node rest ih =>
    rw [List.forall_mem_cons] at h
    rw [scan_cons_of_ok h.1, ih h.2]

theorem scan_of_fault {before : List α} {node : α} {e : ε}
    (hbefore : ∀ other ∈ before, valid other = .ok ()) (hnode : valid node = .error e)
    (after : List α) : scan valid (before ++ node :: after) = (before ++ [node], .error e) := by
  rw [scan_append, scan_of_valid hbefore]
  simp only [scan_cons_of_error hnode]

end Tree

/-! ## The parts of a rule -/

theorem Action.tree_eq_node (action : Action) :
    action.tree = .node (.action action)
      ((action.condition.map Condition.tree).toList ++
        (action.effect.routeTargets?.getD []).map RouteTarget.tree) := by
  rw [tree_eq]
  cases action.effect <;> rfl

namespace RulePart

/-- The parts right below a part, in order: the condition of a rule before its targets. -/
def children : RulePart → List RulePart
  | action a =>
    (a.condition.map condition).toList ++ (a.effect.routeTargets?.getD []).map target
  | condition (.all parts) => parts.map condition
  | condition (.any parts) => parts.map condition
  | condition (.not part) => [condition part]
  | condition (.property _ k) => [comparison k]
  | condition (.unknown _) => []
  | comparison _ => []
  | target t => [argument t.argument]
  | argument _ => []

def tree : RulePart → Tree RulePart
  | action a => a.tree
  | condition c => c.tree
  | comparison k => .node (comparison k) []
  | target t => t.tree
  | argument a => .node (argument a) []

theorem trees_eq (parts : List Condition) :
    Condition.trees parts = (parts.map condition).map tree := by
  rw [Condition.trees_eq_map, List.map_map]
  rfl

/-- The tree of a part is the part with the trees of its children. -/
theorem tree_eq_node (part : RulePart) : part.tree = .node part (part.children.map tree) := by
  cases part with
  | action a =>
    rw [tree, Action.tree_eq_node, children, List.map_append, List.map_map]
    cases a.condition <;> rfl
  | condition c =>
    cases c with
    | all parts => rw [children, ← trees_eq, tree, Condition.tree]
    | any parts => rw [children, ← trees_eq, tree, Condition.tree]
    | not part => rw [children, tree, Condition.tree]; rfl
    | property name k => rw [children, tree, Condition.tree]; rfl
    | unknown raw => rw [children, tree, Condition.tree]; rfl
  | comparison k => rfl
  | target t => rfl
  | argument a => rfl

end RulePart

theorem RouteTarget.preorder_tree (target : RouteTarget) :
    target.tree.preorder = [.target target, .argument target.argument] := by
  simp [tree, Tree.preorder, Tree.preorderAll]

theorem Action.preorder_tree (action : Action) :
    action.tree.preorder = .action action ::
      ((action.condition.map fun c => c.tree.preorder).getD [] ++
        (action.effect.routeTargets?.getD []).flatMap fun t =>
          [.target t, .argument t.argument]) := by
  rw [tree_eq_node, Tree.preorder, Tree.preorderAll_append, Tree.preorderAll_eq_flatMap,
    Tree.preorderAll_eq_flatMap, List.flatMap_map]
  simp only [RouteTarget.preorder_tree]
  cases action.condition <;> simp

/-- A walk finds no fault exactly if no node of the tree has one, and has then looked at all nodes
in preorder. Otherwise it answers with the fault of the first node that has one, and has looked at
the nodes up to this one. The check of a rule is such a walk over the rule, its whole condition and
the targets of its route with their arguments. -/
theorem Action.check_walks_in_preorder :
    (∀ {α ε : Type} (valid : α → Except ε Unit) (tree : Tree α),
      ((tree.walk valid).2 = .ok () ↔ ∀ node ∈ tree.preorder, valid node = .ok ()) ∧
      ((tree.walk valid).2 = .ok () → (tree.walk valid).1 = tree.preorder) ∧
      ∀ e, (tree.walk valid).2 = .error e →
        ∃ before node after, tree.preorder = before ++ node :: after ∧
          (∀ other ∈ before, valid other = .ok ()) ∧ valid node = .error e ∧
          (tree.walk valid).1 = before ++ [node]) ∧
    (∀ action : Action, action.check = (action.tree.walk RulePart.check).2 ∧
      action.tree.preorder = .action action ::
        ((action.condition.map fun c => c.tree.preorder).getD [] ++
          (action.effect.routeTargets?.getD []).flatMap fun t =>
            [.target t, .argument t.argument])) ∧
    ∀ part : RulePart, part.tree = .node part (part.children.map RulePart.tree) := by
  refine ⟨fun {α ε} valid tree => ?_, fun action => ⟨rfl, action.preorder_tree⟩,
    RulePart.tree_eq_node⟩
  have hok : (tree.walk valid).2 = .ok () ↔ ∀ node ∈ tree.preorder, valid node = .ok () := by
    rw [Tree.walk_eq_scan, Tree.scan_snd_eq_ok_iff]
  refine ⟨hok, fun h => ?_, fun e h => ?_⟩
  · rw [Tree.walk_eq_scan, Tree.scan_of_valid (hok.mp h)]
  · rw [Tree.walk_eq_scan, Tree.scan_snd_eq_error_iff] at h
    obtain ⟨node, before, after, hsplit, hbefore, hnode⟩ := h
    refine ⟨before, node, after, hsplit, hbefore, hnode, ?_⟩
    rw [Tree.walk_eq_scan, hsplit, Tree.scan_of_fault hbefore hnode]

end EventGate
