import EventGate.Pipeline.ManifestStage
import EventGate.Proofs.RuleParts

/-! # Loading documents with unusable rules

Rules that newer clients understand may stand in a document among those of an older one. A rule with
a fault in any of its parts is left out and reported at its place, and the rest of the document
loads as if the rule were not there.
-/

namespace EventGate

/-! ## What a rule contains -/

/-- A part stands in a rule, at any depth. -/
inductive Action.Contains (action : Action) : RulePart → Prop
  | self : Contains action (.action action)
  | condition {condition : Condition} (h : action.condition = some condition) :
      Contains action (.condition condition)
  | all {parts : List Condition} {part : Condition}
      (h : Contains action (.condition (.all parts))) (hmem : part ∈ parts) :
      Contains action (.condition part)
  | any {parts : List Condition} {part : Condition}
      (h : Contains action (.condition (.any parts))) (hmem : part ∈ parts) :
      Contains action (.condition part)
  | not {part : Condition} (h : Contains action (.condition (.not part))) :
      Contains action (.condition part)
  | comparison {name : String} {comparison : Comparison}
      (h : Contains action (.condition (.property name comparison))) :
      Contains action (.comparison comparison)
  | target {targets : List RouteTarget} {target : RouteTarget}
      (h : action.effect = .route targets) (hmem : target ∈ targets) :
      Contains action (.target target)
  | argument {target : RouteTarget} (h : Contains action (.target target)) :
      Contains action (.argument target.argument)

namespace RulePart

/-- Parts that no rule can be used with. -/
inductive IsUnusable : RulePart → Prop
  | unknownEffect (condition : Option Condition) (raw : Json) :
      IsUnusable (.action ⟨condition, .unknown raw⟩)
  | unknownCondition (raw : Json) : IsUnusable (.condition (.unknown raw))
  | emptyAll : IsUnusable (.condition (.all []))
  | emptyAny : IsUnusable (.condition (.any []))
  | unknownComparison (raw : Json) : IsUnusable (.comparison (.unknown raw))
  | noChannel (argument : RouteArgument) : IsUnusable (.target ⟨"", argument⟩)
  | unknownArgument (raw : Json) : IsUnusable (.argument (.unknown raw))

/-- A part passes its own check, and so does all that is in it. -/
def Passes : RulePart → Prop
  | action a => a.check = .ok ()
  | condition c => c.Passes
  | comparison c => c.check = .ok ()
  | target t => t.Passes
  | argument a => a.check = .ok ()

theorem Passes.check {part : RulePart} (h : part.Passes) : part.check = .ok () := by
  cases part with
  | action a => exact (Action.check_eq_ok_iff.mp h).2.own
  | condition c =>
    have hroot : RulePart.condition c ∈ c.tree.preorder := by
      cases c <;> rw [Condition.tree, Tree.mem_preorder_iff] <;> exact .inl rfl
    exact h _ hroot
  | comparison c => exact h
  | target t => exact h.1
  | argument a => exact h

theorem Passes.not_isUnusable {part : RulePart} (h : part.Passes) : ¬ part.IsUnusable := by
  intro hbad
  cases hbad with
  | unknownEffect condition raw =>
    obtain ⟨-, heffect⟩ := Action.check_eq_ok_iff.mp h
    exact nomatch heffect.own
  | unknownCondition raw => exact Condition.not_passes_unknown raw h
  | emptyAll => exact (Condition.passes_all_iff.mp h).1 rfl
  | emptyAny => exact (Condition.passes_any_iff.mp h).1 rfl
  | unknownComparison raw => exact nomatch (show Except.error _ = Except.ok () from h)
  | noChannel argument => exact nomatch (show Except.error _ = Except.ok () from h.1)
  | unknownArgument raw => exact nomatch (show Except.error _ = Except.ok () from h)

end RulePart

theorem Action.Contains.passes {action : Action} (haction : action.check = .ok ())
    {part : RulePart} (h : action.Contains part) : part.Passes := by
  obtain ⟨hcondition, heffect⟩ := Action.check_eq_ok_iff.mp haction
  induction h with
  | self => exact haction
  | condition h => exact hcondition _ h
  | all _ hmem ih => exact (Condition.passes_all_iff.mp ih).2 _ hmem
  | any _ hmem ih => exact (Condition.passes_any_iff.mp ih).2 _ hmem
  | not _ ih => exact Condition.passes_not_iff.mp ih
  | comparison _ ih => exact (Condition.passes_property_iff.mp ih).2
  | target h hmem => exact heffect.targets _ h _ hmem
  | argument _ ih => exact ih.2

/-- What is in the tree of a condition stands in the rule that the condition stands in. -/
theorem Action.contains_of_mem_preorder {action : Action} {part : RulePart} :
    ∀ condition : Condition, action.Contains (.condition condition) →
      part ∈ condition.tree.preorder → action.Contains part
  | .all parts, h, hpart => by
    rw [Condition.tree, Condition.trees_eq_map, Tree.mem_preorder_iff] at hpart
    rcases hpart with rfl | ⟨child, hchild, hpart⟩
    · exact h
    · obtain ⟨inner, hmem, rfl⟩ := List.mem_map.mp hchild
      exact contains_of_mem_preorder inner (.all h hmem) hpart
  | .any parts, h, hpart => by
    rw [Condition.tree, Condition.trees_eq_map, Tree.mem_preorder_iff] at hpart
    rcases hpart with rfl | ⟨child, hchild, hpart⟩
    · exact h
    · obtain ⟨inner, hmem, rfl⟩ := List.mem_map.mp hchild
      exact contains_of_mem_preorder inner (.any h hmem) hpart
  | .not inner, h, hpart => by
    rw [Condition.tree, Tree.mem_preorder_iff] at hpart
    rcases hpart with rfl | ⟨child, hchild, hpart⟩
    · exact h
    · rw [List.mem_singleton.mp hchild] at hpart
      exact contains_of_mem_preorder inner (.not h) hpart
  | .property name comparison, h, hpart => by
    rw [Condition.tree, Tree.mem_preorder_iff] at hpart
    rcases hpart with rfl | ⟨child, hchild, hpart⟩
    · exact h
    · rw [List.mem_singleton.mp hchild] at hpart
      rw [Tree.mem_preorder_leaf.mp hpart]
      exact .comparison h
  | .unknown raw, h, hpart => by
    rw [Condition.tree] at hpart
    rw [Tree.mem_preorder_leaf.mp hpart]
    exact h

theorem Action.contains_of_mem_tree {action : Action} {part : RulePart}
    (hpart : part ∈ action.tree.preorder) : action.Contains part := by
  rw [Action.tree_eq, Tree.mem_preorder_iff] at hpart
  rcases hpart with rfl | ⟨child, hchild, hpart⟩
  · exact .self
  · rcases List.mem_append.mp hchild with hchild | hchild
    · cases hcondition : action.condition with
      | none => simp [hcondition] at hchild
      | some condition =>
        have htree : child = condition.tree := by simpa [hcondition] using hchild
        rw [htree] at hpart
        exact contains_of_mem_preorder condition (.condition hcondition) hpart
    · cases heffect : action.effect with
      | route targets =>
        rw [heffect] at hchild
        obtain ⟨target, hmem, rfl⟩ := List.mem_map.mp hchild
        have htarget : action.Contains (.target target) := .target heffect hmem
        rw [RouteTarget.tree, Tree.mem_preorder_iff] at hpart
        rcases hpart with rfl | ⟨child, hchild, hpart⟩
        · exact htarget
        · rw [List.mem_singleton.mp hchild] at hpart
          rw [Tree.mem_preorder_leaf.mp hpart]
          exact .argument htarget
      | _ => simp [heffect] at hchild

/-- A rule is usable exactly if every part of it passes its own check, however deep it stands. -/
theorem Action.check_eq_ok_iff_contains {action : Action} :
    action.check = .ok () ↔ ∀ part, action.Contains part → part.check = .ok () := by
  constructor
  · exact fun h part hpart => (hpart.passes h).check
  · intro h
    rw [Action.check, Tree.check_eq_ok_iff]
    exact fun part hpart => h part (contains_of_mem_tree hpart)

namespace Document

/-! ## Rules that are kept, and rules that are left out -/

theorem mem_kept_iff {actions : List Action} {action : Action} :
    action ∈ kept actions ↔ action ∈ actions ∧ action.check = .ok () := by
  have hok : action.check.isOk = true ↔ action.check = .ok () := by
    cases action.check <;> simp [Except.isOk, Except.toBool]
  rw [kept, List.mem_filter, hok]

theorem mem_droppedFrom_iff {actions : List Action} {start : Nat} {rule : DroppedRule} :
    rule ∈ droppedFrom start actions ↔
      start ≤ rule.index ∧ ∃ action, actions[rule.index - start]? = some action ∧
        rule.key = action.effect.key ∧ action.check = .error rule.fault := by
  induction actions generalizing start with
  | nil => simp [droppedFrom]
  | cons action rest ih =>
    have hrest : rule ∈ droppedFrom (start + 1) rest ↔
        start < rule.index ∧ ∃ other, (action :: rest)[rule.index - start]? = some other ∧
          rule.key = other.effect.key ∧ other.check = .error rule.fault := by
      rw [ih]
      refine and_congr_right fun hlt => ?_
      have hsub : rule.index - start = rule.index - (start + 1) + 1 := by omega
      rw [hsub, List.getElem?_cons_succ]
    have hhead : rule.index = start → (action :: rest)[rule.index - start]? = some action := by
      intro hindex
      rw [hindex, Nat.sub_self, List.getElem?_cons_zero]
    cases hcheck : action.check with
    | ok =>
      rw [droppedFrom, hcheck, hrest]
      constructor
      · rintro ⟨hlt, hother⟩
        exact ⟨Nat.le_of_lt hlt, hother⟩
      · rintro ⟨hle, other, hother, hkey, hfault⟩
        by_cases hindex : rule.index = start
        · -- The rule at the first place has no fault.
          rw [hhead hindex] at hother
          cases hother
          rw [hcheck] at hfault
          cases hfault
        · have hlt : start < rule.index := by omega
          exact ⟨hlt, other, hother, hkey, hfault⟩
    | error fault =>
      rw [droppedFrom, hcheck, List.mem_cons, hrest]
      constructor
      · rintro (rfl | ⟨hlt, hother⟩)
        · exact ⟨Nat.le_refl start, action, hhead rfl, rfl, hcheck⟩
        · exact ⟨Nat.le_of_lt hlt, hother⟩
      · rintro ⟨hle, other, hother, hkey, hfault⟩
        by_cases hindex : rule.index = start
        · rw [hhead hindex] at hother
          cases hother
          rw [hcheck] at hfault
          cases hfault
          left
          cases rule
          simp_all
        · have hlt : start < rule.index := by omega
          exact .inr ⟨hlt, other, hother, hkey, hfault⟩

theorem pairwise_droppedFrom (start : Nat) (actions : List Action) :
    (droppedFrom start actions).Pairwise fun a b => a.index < b.index := by
  induction actions generalizing start with
  | nil => exact List.Pairwise.nil
  | cons action rest ih =>
    have hrest := ih (start + 1)
    rw [droppedFrom]
    cases action.check with
    | ok => exact hrest
    | error fault =>
      refine List.pairwise_cons.mpr ⟨fun rule hrule => ?_, hrest⟩
      have hle := (mem_droppedFrom_iff.mp hrule).1
      exact hle

/-- What a manifest says about the rules that it was made from. -/
structure AccountsFor (manifest : Manifest) (actions : List Action) : Prop where
  /-- The rules that are kept stand in the order of the document. -/
  sublist : manifest.actions.Sublist actions
  mem_actions : ∀ action, action ∈ manifest.actions ↔
    action ∈ actions ∧ ∀ part, action.Contains part → part.check = .ok ()
  increasing : manifest.dropped.Pairwise fun a b => a.index < b.index
  /-- A rule is reported at its place, with the first fault among its parts in preorder. -/
  mem_dropped : ∀ rule, rule ∈ manifest.dropped ↔ ∃ action, actions[rule.index]? = some action ∧
    rule.key = action.effect.key ∧
      ∃ part, Tree.FirstFault RulePart.check action.tree.preorder part rule.fault
  length : manifest.actions.length + manifest.dropped.length = actions.length

theorem accountsFor_validate (document : Document) :
    AccountsFor document.validate document.actions where
  sublist := List.filter_sublist
  mem_actions action := by
    rw [validate, mem_kept_iff, Action.check_eq_ok_iff_contains]
  increasing := pairwise_droppedFrom 0 document.actions
  mem_dropped rule := by
    rw [validate, mem_droppedFrom_iff, Nat.sub_zero, and_iff_right (Nat.zero_le _)]
    simp only [Action.check, Tree.check_eq_error_iff]
  length := length_kept_add_dropped document.actions 0

/-! ## Rules that are put in -/

/-- A list of rules with rules put in that cannot be used. -/
inductive Padded : List Action → List Action → Prop
  | nil : Padded [] []
  | keep {actions padded : List Action} (action : Action) (h : Padded actions padded) :
      Padded (action :: actions) (action :: padded)
  | put {actions padded : List Action} {action : Action} {fault : RuleFault}
      (hfault : action.check = .error fault) (h : Padded actions padded) :
      Padded actions (action :: padded)

theorem Padded.kept_eq {actions padded : List Action} (h : Padded actions padded) :
    kept padded = kept actions := by
  induction h with
  | nil => rfl
  | keep action _ ih =>
    rw [kept, kept, List.filter_cons, List.filter_cons]
    split
    · exact congrArg (action :: ·) ih
    · exact ih
  | put hfault _ ih =>
    rw [kept, List.filter_cons, hfault]
    exact ih

/-- Rules that cannot be used change nothing but the report about them: the manifest keeps the
rules it had, in their order, with the same stages and the same rate limit. -/
theorem validate_of_padded {document : Document} {actions : List Action}
    (h : Padded document.actions actions) :
    let before := document.validate
    let after := { document with actions := actions }.validate
    after.actions = before.actions ∧
      (∀ σ : Type, after.stages = (before.stages : List (Stage σ))) ∧
      after.throttling = before.throttling ∧
      AccountsFor after actions ∧
      ∀ action ∈ after.actions, ∀ part, action.Contains part → ¬ part.IsUnusable := by
  intro before after
  have hactions : after.actions = before.actions := h.kept_eq
  refine ⟨hactions, ?stages, rfl, accountsFor_validate _, ?usable⟩
  case stages =>
    intro _
    rw [Manifest.stages, hactions, Manifest.stages]
  case usable =>
    intro action hmem part hpart
    have hcheck : action.check = .ok () := (mem_kept_iff.mp hmem).2
    exact (hpart.passes hcheck).not_isUnusable

end Document

namespace Sample

def older : Document :=
  .ofActions [⟨none, .throttle true⟩, ⟨none, .markPersonal ["user"]⟩]

def newer : List Action :=
  [⟨some (.not (.all [])), .doNotThrottle true⟩, ⟨none, .throttle true⟩, ⟨none, .unknown .null⟩,
    ⟨none, .markPersonal ["user"]⟩]

theorem padded_newer : Document.Padded older.actions newer :=
  .put rfl (.keep _ (.put rfl (.keep _ .nil)))

end Sample

theorem newer_rules_are_left_out :
    let after := { Sample.older with actions := Sample.newer }.validate
    Document.Padded Sample.older.actions Sample.newer ∧
      after.actions = Sample.older.actions ∧
      Document.AccountsFor after Sample.newer ∧
      after.dropped.map DroppedRule.text =
        ["#0 doNotThrottle: manifest validation error: empty and-clause",
          "#2 invalid: manifest validation error: unrecognized action null"] := by
  obtain ⟨hactions, -, -, haccounts, -⟩ := Document.validate_of_padded Sample.padded_newer
  exact ⟨Sample.padded_newer, hactions.trans rfl, haccounts, by decide +kernel⟩

end EventGate
