import EventGate.Proofs.BagHistory
import EventGate.Proofs.LowerCase

/-! # Sets of names and their histories

What a set of names holds is told by the last call about each name since the set was cleared. Which
names are one name is told by their folded forms, for texts of any letters, and a bag after the same
calls holds the same names.
-/

namespace EventGate.NameSet

open Text

/-! ## Calls -/

inductive Call where
  | insert (name : String)
  | erase (name : String)
  | clear
deriving DecidableEq

def serve (set : NameSet) : Call → NameSet
  | .insert name => set.insert name
  | .erase name => set.erase name
  | .clear => empty

def after (set : NameSet) (calls : List Call) : NameSet :=
  calls.foldl serve set

def Call.isOf (call : Call) (name : String) : Bool :=
  match call with
  | insert other => sameName other name
  | erase other => sameName other name
  | clear => false

def sinceClear (calls : List Call) : List Call :=
  (calls.reverse.takeWhile (· != .clear)).reverse

def last? (calls : List Call) (name : String) : Option Call :=
  ((sinceClear calls).filter (·.isOf name)).getLast?

theorem after_append_singleton (set : NameSet) (calls : List Call) (call : Call) :
    set.after (calls ++ [call]) = (set.after calls).serve call := by
  rw [after, List.foldl_append]
  rfl

theorem sinceClear_append_singleton (calls : List Call) (call : Call) :
    sinceClear (calls ++ [call]) = if call = .clear then [] else sinceClear calls ++ [call] := by
  rw [sinceClear, List.reverse_append, List.reverse_singleton, List.singleton_append]
  by_cases hclear : call = .clear
  · rw [if_pos hclear, List.takeWhile_cons_of_neg (by simp [hclear]), List.reverse_nil]
  · rw [if_neg hclear, List.takeWhile_cons_of_pos (by simp [hclear]), List.reverse_cons]
    rfl

theorem last?_append_singleton (calls : List Call) (call : Call) (name : String) :
    last? (calls ++ [call]) name =
      if call = .clear then none
      else if call.isOf name = true then some call else last? calls name := by
  rw [last?, sinceClear_append_singleton]
  by_cases hclear : call = .clear
  · rw [if_pos hclear, if_pos hclear]
    rfl
  · rw [if_neg hclear, if_neg hclear, List.filter_append]
    by_cases hname : call.isOf name = true
    · simp [hname]
    · simp [hname, last?]

/-- A name is in the set exactly if its last call since the last clearing put it in. -/
theorem contains_after_iff (calls : List Call) (name : String) :
    (empty.after calls).contains name = true ↔
      ∃ spelling, last? calls name = some (.insert spelling) := by
  -- From the back, as the last call decides unless it is about another name.
  induction calls using List.reverseRecOn with
  | nil => simp [after, last?, sinceClear]
  | append_singleton calls call ih =>
    rw [after_append_singleton, last?_append_singleton]
    cases call with
    | clear => simp [serve]
    | insert other =>
      rw [serve, contains_insert, Bool.or_eq_true, ih, if_neg (by simp), Call.isOf]
      by_cases hname : sameName other name = true <;> simp [hname]
    | erase other =>
      rw [serve, contains_erase, Bool.and_eq_true, ih, if_neg (by simp), Call.isOf]
      by_cases hname : sameName other name = true <;> simp [hname]

/-! ## Beside a bag -/

/-- The same call on a bag, with a value for a name that is put in. -/
def Call.onBag (value : PropertyValue) : Call → Bag.Call
  | insert name => .insert name value
  | erase name => .erase name
  | clear => .retain fun _ => false

theorem contains_serve_eq {set : NameSet} {bag : Bag}
    (h : ∀ name, set.contains name = bag.contains name) (call : Call) (value : PropertyValue)
    (name : String) :
    (set.serve call).contains name = (bag.serve (call.onBag value)).2.contains name := by
  cases call with
  | insert other =>
    exact (set.contains_insert other name).trans
      (h name ▸ (bag.contains_insert other value name).symm)
  | erase other =>
    exact (set.contains_erase other name).trans (h name ▸ (bag.contains_erase other name).symm)
  | clear => simp [serve, Call.onBag, Bag.serve, Bag.retain, Bag.contains, Bag.find?]

theorem contains_after_eq {set : NameSet} {bag : Bag}
    (h : ∀ name, set.contains name = bag.contains name) (calls : List (Call × PropertyValue))
    (name : String) :
    (set.after (calls.map Prod.fst)).contains name =
      (Bag.transcript Bag.serve bag (calls.map fun call => call.1.onBag call.2)).2.contains
        name := by
  induction calls generalizing set bag with
  | nil => exact h name
  | cons call rest ih => exact ih (contains_serve_eq h call.1 call.2)

/-- Names are one name exactly if they have one folded form. A text is folded by the small form
of each of its characters, in ASCII and out of it, and folding it again changes nothing; texts are
compared as their folded forms are, whatever letters they have. So a set holds a name exactly if the
last call about it since the last clearing put it in, and a bag after the same calls holds the same
names. -/
theorem folding_is_coherent :
    (∀ text : String, (fold text).toList = lower text.toList ∧
      (fold text).toList = lowerByPlace [] text.toList) ∧
    (∀ a b : String, sameName a b = true ↔ fold a = fold b) ∧
    (Equivalence fun a b : String => sameName a b = true) ∧
    (∀ text : String, fold (fold text) = fold text) ∧
    (∀ (calls : List Call) (name : String),
      (empty.after calls).contains name = true ↔
        ∃ spelling, last? calls name = some (.insert spelling)) ∧
    (∀ (calls : List (Call × PropertyValue)) (name : String),
      (empty.after (calls.map Prod.fst)).contains name =
        (Bag.transcript Bag.serve .empty (calls.map fun call => call.1.onBag call.2)).2.contains
          name) := by
  have hlower (text : String) : (fold text).toList = lower text.toList := by
    rw [toList_fold, foldChars_eq_lower]
  have hplaces (text : String) : (fold text).toList = lowerByPlace [] text.toList := by
    rw [toList_fold, foldChars_eq_lowerByPlace]
  have hequivalence : Equivalence fun a b : String => sameName a b = true := by
    constructor
    case refl => exact sameName_refl
    case symm =>
      intro a b h
      rwa [sameName_comm]
    case trans =>
      intro a b c hab hbc
      rwa [sameName_congr hab]
  have hempty (name : String) : empty.contains name = Bag.empty.contains name :=
    contains_empty name
  exact ⟨fun text => ⟨hlower text, hplaces text⟩, sameName_iff, hequivalence, fold_fold,
    contains_after_iff, contains_after_eq hempty⟩

end EventGate.NameSet
