import EventGate.Proofs.Rules
import EventGate.Proofs.Sending

/-! # What is held back

The names that are held back after exclusions and readmissions, as a set of folded names. Rules for
properties do not change what rules see, so they come to one list of names.
-/

namespace EventGate

open Text

theorem NameSet.mem_folded_erase (set : NameSet) (name key : String) :
    key ∈ (set.erase name).folded ↔ key ∈ set.folded ∧ key ≠ fold name := by
  simp [erase, remove]

/-- Whether excluding a name from an event with these properties holds back a folded name. -/
def Bag.Excludes (bag : Bag) (name key : String) : Prop :=
  bag.contains name = true ∧
    (key = fold name ∨
      bag.contains (Naming.rawName name) = true ∧ key = fold (Naming.rawName name))

/-- Whether readmitting a name gives a folded name free. -/
def Naming.Frees (name key : String) : Prop :=
  key = fold name ∨ key = fold (rawName name)

namespace Event

theorem mem_excluded_exclude {event : Event} {name key : String} :
    key ∈ (event.exclude name).excluded.folded ↔
      key ∈ event.excluded.folded ∨ event.properties.Excludes name key := by
  rw [exclude_eq]
  unfold Bag.Excludes
  cases event.properties.contains name with
  | false => simp
  | true =>
    cases hraw : event.properties.contains (Naming.rawName name) with
    | false => simp [hraw]
    | true =>
      simp only [hraw, if_true, NameSet.mem_folded_insert, true_and]
      rw [or_assoc, or_comm (a := key = fold (Naming.rawName name))]

theorem mem_excluded_readmit {event : Event} {name key : String} :
    key ∈ (Event.readmit event name).excluded.folded ↔
      key ∈ event.excluded.folded ∧ ¬ Naming.Frees name key := by
  rw [readmit_eq, NameSet.mem_folded_erase, NameSet.mem_folded_erase, Naming.Frees, not_or,
    and_assoc, and_comm (a := key ≠ fold (Naming.rawName name))]

theorem mem_excluded_excludeAll {event : Event} {names : List String} {key : String} :
    key ∈ (event.excludeAll names).excluded.folded ↔
      key ∈ event.excluded.folded ∨ ∃ name ∈ names, event.properties.Excludes name key := by
  induction names generalizing event with
  | nil => simp
  | cons first rest ih =>
    rw [excludeAll_cons, ih, mem_excluded_exclude, properties_exclude, or_assoc]
    simp only [List.mem_cons, exists_eq_or_imp]

theorem mem_excluded_readmitAll {event : Event} {names : List String} {key : String} :
    key ∈ (event.readmitAll names).excluded.folded ↔
      key ∈ event.excluded.folded ∧ ∀ name ∈ names, ¬ Naming.Frees name key := by
  induction names generalizing event with
  | nil => simp [readmitAll]
  | cons first rest ih =>
    have hcons : event.readmitAll (first :: rest) =
        (Event.readmit event first).readmitAll rest := rfl
    rw [hcons, ih, mem_excluded_readmit, and_assoc, List.forall_mem_cons]

end Event

/-! ## Rules for properties -/

namespace ManifestStage

theorem namesBy_cons (rule : Guarded (List String)) (rest : List (Guarded (List String)))
    (event : Event) :
    namesBy (rule :: rest) event =
      (if rule.applies event then rule.payload else []) ++ namesBy rest event := by
  unfold namesBy
  rw [List.filter_cons]
  split <;> rfl

/-- Rules that change an event name by name, and never its properties, change it as the list of all
their names does. -/
theorem changeBy_eq (change : Event → List String → Event)
    (hnil : ∀ event, change event [] = event)
    (happend : ∀ event xs ys, change event (xs ++ ys) = change (change event xs) ys)
    (hprops : ∀ event names, (change event names).properties = event.properties)
    (event : Event) (rules : List (Guarded (List String))) :
    changeBy change event rules = change event (namesBy rules event) := by
  induction rules generalizing event with
  | nil => exact (hnil event).symm
  | cons rule rest ih =>
    rw [namesBy_cons, happend]
    unfold changeBy at ih ⊢
    rw [List.foldl_cons]
    split
    · rw [ih, namesBy_congr (hprops event rule.payload)]
    · rw [ih, hnil]

theorem filtered_eq (rules : OptOutRules) (event : Event) :
    filtered rules event =
      (event.readmitAll (namesBy rules.allowedProperties event)).excludeAll
        (namesBy rules.deniedProperties event) := by
  rw [filtered, changeBy_eq Event.readmitAll (fun _ => rfl) (fun _ _ _ => List.foldl_append)
      Event.properties_readmitAll,
    changeBy_eq Event.excludeAll (fun _ => rfl) (fun _ _ _ => List.foldl_append)
      Event.properties_excludeAll,
    namesBy_congr (Event.properties_readmitAll event _)]

end ManifestStage

end EventGate
