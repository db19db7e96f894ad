import EventGate.Rule.Tree

/-! # Walks over trees

The walk over a tree looks at its nodes in preorder, up to the first one with a fault, and answers
with this fault.
-/

namespace EventGate.Tree

variable {α ε : Type}

/-- Looks at nodes one after another: those seen, and the first fault. -/
def scan (valid : α → Except ε Unit) : List α → List α × Except ε Unit
  | [] => ([], .ok ())
  | value :: rest =>
    match valid value with
    | .error e => ([value], .error e)
    | .ok () => (value :: (scan valid rest).1, (scan valid rest).2)

def FirstFault (valid : α → Except ε Unit) (nodes : List α) (node : α) (e : ε) : Prop :=
  ∃ before after, nodes = before ++ node :: after ∧ (∀ other ∈ before, valid other = .ok ()) ∧
    valid node = .error e

section

variable {valid : α → Except ε Unit}

theorem scan_cons_of_ok {node : α} (h : valid node = .ok ()) (rest : List α) :
    scan valid (node :: rest) = (node :: (scan valid rest).1, (scan valid rest).2) := by
  rw [scan, h]

theorem scan_cons_of_error {node : α} {e : ε} (h : valid node = .error e) (rest : List α) :
    scan valid (node :: rest) = ([node], .error e) := by
  rw [scan, h]

/-- A fault in the first part keeps the scan from the second one. -/
theorem scan_append (first second : List α) :
    scan valid (first ++ second) =
      match scan valid first with
      | (seen, .error e) => (seen, .error e)
      | (seen, .ok ()) => (seen ++ (scan valid second).1, (scan valid second).2) := by
  induction first with
  | nil => rfl
  | cons node rest ih =>
    rw [List.cons_append]
    cases hnode : valid node with
    | error e => rw [scan_cons_of_error hnode, scan_cons_of_error hnode]
    | ok =>
      rw [scan_cons_of_ok hnode, scan_cons_of_ok hnode, ih]
      rcases scan valid rest with ⟨seen, e | _⟩ <;> rfl

theorem scan_snd_eq_ok_iff (nodes : List α) :
    (scan valid nodes).2 = .ok () ↔ ∀ node ∈ nodes, valid node = .ok () := by
  induction nodes with
  | nil => exact ⟨fun _ node hnode => absurd hnode List.not_mem_nil, fun _ => rfl⟩
  | cons node rest ih =>
    cases hnode : valid node with
    | error e =>
      rw [scan_cons_of_error hnode]
      refine ⟨nofun, fun h => ?_⟩
      rw [h node List.mem_cons_self] at hnode
      exact nomatch hnode
    | ok => rw [scan_cons_of_ok hnode, ih, List.forall_mem_cons, and_iff_right hnode]

/-- What a scan answers with is the fault of the first node that has one. -/
theorem scan_snd_eq_error_iff {nodes : List α} {e : ε} :
    (scan valid nodes).2 = .error e ↔ ∃ node, FirstFault valid nodes node e := by
  induction nodes with
  | nil =>
    refine ⟨nofun, ?_⟩
    rintro ⟨node, before, after, h, -⟩
    exact absurd h.symm (List.append_ne_nil_of_right_ne_nil before (List.cons_ne_nil node after))
  | cons node rest ih =>
    cases hnode : valid node with
    | error other =>
      rw [scan_cons_of_error hnode]
      constructor
      · rintro ⟨⟩
        exact ⟨node, [], rest, rfl, fun _ h => absurd h List.not_mem_nil, hnode⟩
      · rintro ⟨bad, before, after, hsplit, hbefore, hbad⟩
        cases before with
        | nil =>
          obtain ⟨rfl, -⟩ := List.cons.inj hsplit
          exact hnode.symm.trans hbad
        | cons first before =>
          -- The first node has a fault, so nothing can stand before the first fault.
          obtain ⟨rfl, -⟩ := List.cons.inj hsplit
          rw [hbefore node List.mem_cons_self] at hnode
          exact nomatch hnode
    | ok =>
      rw [scan_cons_of_ok hnode, ih]
      constructor
      · rintro ⟨bad, before, after, rfl, hbefore, hbad⟩
        exact ⟨bad, node :: before, after, rfl, List.forall_mem_cons.mpr ⟨hnode, hbefore⟩, hbad⟩
      · rintro ⟨bad, before, after, hsplit, hbefore, hbad⟩
        cases before with
        | nil =>
          obtain ⟨rfl, -⟩ := List.cons.inj hsplit
          rw [hbad] at hnode
          exact nomatch hnode
        | cons first before =>
          obtain ⟨rfl, rfl⟩ := List.cons.inj hsplit
          exact ⟨bad, before, after, rfl, (List.forall_mem_cons.mp hbefore).2, hbad⟩

end

theorem preorderAll_append (trees others : List (Tree α)) :
    preorderAll (trees ++ others) = preorderAll trees ++ preorderAll others := by
  induction trees with
  | nil => rfl
  | cons tree rest ih => rw [List.cons_append, preorderAll, preorderAll, ih, List.append_assoc]

/-- What is still to be looked at are the nodes of the forest on the stack, in preorder. -/
theorem visit_eq_scan (valid : α → Except ε Unit) (seen : List α) (stack : List (Tree α)) :
    visit valid seen stack =
      (seen.reverse ++ (scan valid (preorderAll stack)).1, (scan valid (preorderAll stack)).2) := by
  fun_induction visit valid seen stack with
  | case1 seen => simp [preorderAll, scan]
  | case2 seen value children stack e hvalue =>
    simp [preorderAll, preorder, scan_cons_of_error hvalue]
  | case3 seen value children stack hvalue ih =>
    have hforest : preorderAll (pushAll stack children) =
        preorderAll children ++ preorderAll stack := by
      rw [pushAll_eq, preorderAll_append]
    rw [hforest] at ih
    simp [ih, preorderAll, preorder, scan_cons_of_ok hvalue]

/-- The walk over a tree is the scan of its nodes in preorder. -/
theorem walk_eq_scan (valid : α → Except ε Unit) (tree : Tree α) :
    tree.walk valid = scan valid tree.preorder := by
  rw [walk, visit_eq_scan, preorderAll, preorderAll, List.append_nil]
  rfl

section

variable {valid : α → Except ε Unit}

theorem check_eq_ok_iff {tree : Tree α} :
    tree.check valid = .ok () ↔ ∀ node ∈ tree.preorder, valid node = .ok () := by
  rw [check, walk_eq_scan, scan_snd_eq_ok_iff]

theorem check_eq_error_iff {tree : Tree α} {e : ε} :
    tree.check valid = .error e ↔ ∃ node, FirstFault valid tree.preorder node e := by
  rw [check, walk_eq_scan, scan_snd_eq_error_iff]

end

theorem preorderAll_eq_flatMap (trees : List (Tree α)) :
    preorderAll trees = trees.flatMap preorder := by
  induction trees with
  | nil => rw [preorderAll, List.flatMap_nil]
  | cons tree rest ih => rw [preorderAll, ih, List.flatMap_cons]

theorem mem_preorder_iff {value other : α} {children : List (Tree α)} :
    other ∈ (node value children).preorder ↔
      other = value ∨ ∃ child ∈ children, other ∈ child.preorder := by
  rw [preorder, preorderAll_eq_flatMap, List.mem_cons, List.mem_flatMap]

theorem mem_preorder_leaf {value other : α} :
    other ∈ (node value []).preorder ↔ other = value := by
  simp [mem_preorder_iff]

theorem forall_mem_preorder {p : α → Prop} {value : α} {children : List (Tree α)} :
    (∀ other ∈ (node value children).preorder, p other) ↔
      p value ∧ ∀ child ∈ children, ∀ other ∈ child.preorder, p other := by
  rw [preorder, preorderAll_eq_flatMap, List.forall_mem_cons, List.forall_mem_flatMap]

end EventGate.Tree
