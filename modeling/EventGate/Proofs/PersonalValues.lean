import EventGate.Proofs.PlainValues
import EventGate.Proofs.ReservedNames

/-! # Personal values

What the rules and the hashing make of one property. Rules mark the value under a name, and the
hashing puts its digest in its place. Neither touches any other property, as long as its name is not
that of a raw text.
-/

namespace EventGate

open Text

/-! ## Plain values -/

section

variable {value : PropertyValue} (h : value.isPlain = true)

include h

theorem PropertyValue.isPersonal_of_isPlain : value.isPersonal = false := by
  cases value with
  | text s | number x | flag b => rfl
  | personal inner | structured json => exact absurd h Bool.false_ne_true

theorem ManifestStage.marked_of_isPlain : marked value = .personal value := by
  cases value with
  | text s | number x | flag b => rfl
  | personal inner | structured json => exact absurd h Bool.false_ne_true

theorem HostStage.rendered_of_isPlain : rendered value = value := by
  cases value with
  | text s | number x | flag b => rfl
  | personal inner | structured json => exact absurd h Bool.false_ne_true

end

/-! ## Marking -/

/-- Whether a rule that applies to an event marks a name as that of a personal value. -/
def Manifest.marksPersonal (manifest : Manifest) (event : Event) (name : String) : Bool :=
  manifest.actions.any fun action =>
    match action.effect with
    | .markPersonal names => action.applies event && names.any (sameName name)
    | _ => false

namespace ManifestStage

theorem any_namesBy (manifest : Manifest) (event : Event) (name : String) :
    (namesBy (Guarded.select Effect.personalNames? manifest.actions) event).any (sameName name) =
      manifest.marksPersonal event name := by
  rw [namesBy, List.any_flatMap, List.any_filter, Guarded.any_select, Manifest.marksPersonal]
  congr 1
  funext action
  cases action.effect <;> rfl

/-- Marking several names changes the entries of these names, each of them once. -/
theorem entries_foldl_marked (names : List String) (bag : Bag) :
    (names.foldl (fun bag name => bag.modify name marked) bag).entries =
      bag.entries.map fun e => if names.any (sameName e.1) then (e.1, marked e.2) else e := by
  induction names generalizing bag with
  | nil => exact (List.map_id' bag.entries).symm
  | cons name names ih =>
    rw [List.foldl_cons, ih, Bag.entries_modify, List.map_map]
    refine List.map_congr_left fun e _ => ?_
    have honce : marked (marked e.2) = marked e.2 := by cases e.2 <;> rfl
    rw [Function.comp_apply, List.any_cons]
    cases sameName e.1 name <;> cases hrest : names.any (sameName e.1) <;> simp [hrest, honce]

theorem mem_markedBag (manifest : Manifest) {event : Event} {name : String}
    {value : PropertyValue} (h : (name, value) ∈ event.properties.entries) :
    (name, if manifest.marksPersonal event name then marked value else value) ∈
      (markedBag (Guarded.select Effect.personalNames? manifest.actions) event).entries := by
  rw [markedBag, entries_foldl_marked]
  refine List.mem_map.mpr ⟨(name, value), h, ?_⟩
  rw [any_namesBy]
  split <;> rfl

end ManifestStage

/-! ## Hashing -/

namespace Naming

/-- Whether a name is that of no raw text. -/
def IsOwn (name : String) : Prop :=
  ∀ own, sameName name (rawName own) = false

theorem isOwn_of_not_suffix {name : String}
    (h : ¬ ".nothashed".toList <:+ foldChars name.toList) : IsOwn name := by
  intro own
  obtain ⟨front, hfold, -⟩ := foldChars_rawName own
  rw [← Bool.not_eq_true, sameName_iff, ← String.toList_inj, toList_fold, toList_fold, hfold]
  intro heq
  exact h (heq ▸ List.suffix_append _ _)

end Naming

namespace Personal

variable {hash : String → String} {attach : Bool}

theorem mem_hashOne {state : Event × Nat} {e : Entry} {own : String}
    (hother : sameName e.1 own = false) (hraw : sameName e.1 (Naming.rawName own) = false)
    (he : e ∈ state.1.properties.entries) :
    e ∈ (hashOne hash attach state own).1.properties.entries := by
  obtain ⟨event, count⟩ := state
  rcases hashOne_cases hash attach event count own with
    ⟨-, heq⟩ | ⟨value, fault, -, -, heq⟩ | ⟨value, text, -, -, heq⟩
  · rw [heq]
    exact he
  · rw [heq]
    exact Bag.mem_erase.mpr ⟨he, hother⟩
  · have hput : e ∈ (event.put own (.text (hash text))).properties.entries :=
      Bag.mem_insert.mpr (.inr ⟨he, hother⟩)
    rw [heq, replaced]
    split
    · exact Bag.mem_insert.mpr (.inr ⟨hput, hraw⟩)
    · exact hput

theorem mem_foldl_hashOne {state : Event × Nat} {e : Entry} {owns : List String}
    (hothers : ∀ own ∈ owns, sameName e.1 own = false)
    (hraws : ∀ own ∈ owns, sameName e.1 (Naming.rawName own) = false)
    (he : e ∈ state.1.properties.entries) :
    e ∈ (owns.foldl (hashOne hash attach) state).1.properties.entries :=
  List.foldlRecOn (motive := fun state : Event × Nat => e ∈ state.1.properties.entries) owns _ he
    fun _ hmem own hown => mem_hashOne (hothers own hown) (hraws own hown) hmem

theorem mem_hashOne_self {state : Event × Nat} {name text : String} {value : PropertyValue}
    (hname : Naming.IsOwn name) (he : (name, value) ∈ state.1.properties.entries)
    (htext : value.invariantText = .ok text) :
    (name, .text (hash text)) ∈ (hashOne hash attach state name).1.properties.entries := by
  obtain ⟨event, count⟩ := state
  have hget : event.properties.get? name = some value := Bag.get?_of_mem he
  have hput : (name, .text (hash text)) ∈ (event.put name (.text (hash text))).properties.entries :=
    Bag.mem_insert.mpr (.inl rfl)
  rcases hashOne_cases hash attach event count name with
    ⟨hnone, -⟩ | ⟨other, fault, hother, hfault, -⟩ | ⟨other, read, hother, hread, heq⟩
  · rw [hget] at hnone
    cases hnone
  · rw [hget] at hother
    cases hother
    rw [htext] at hfault
    cases hfault
  · rw [hget] at hother
    cases hother
    rw [htext] at hread
    cases hread
    rw [heq, replaced]
    split
    · exact Bag.mem_insert.mpr (.inr ⟨hput, hname name⟩)
    · exact hput

/-- Among names that differ by more than case, the turn of each one comes once. -/
theorem mem_foldl_hashOne_self {state : Event × Nat} {name text : String} {value : PropertyValue}
    {owns : List String} (hname : Naming.IsOwn name) (hnodup : (owns.map fold).Nodup)
    (hmem : name ∈ owns) (he : (name, value) ∈ state.1.properties.entries)
    (htext : value.invariantText = .ok text) :
    (name, .text (hash text)) ∈
      (owns.foldl (hashOne hash attach) state).1.properties.entries := by
  induction owns generalizing state with
  | nil => exact absurd hmem List.not_mem_nil
  | cons own rest ih =>
    rw [List.map_cons, List.nodup_cons] at hnodup
    have hbehind : ∀ other ∈ rest, sameName own other = false := by
      intro other hother
      rw [← Bool.not_eq_true, sameName_iff]
      intro heq
      exact hnodup.1 (heq ▸ List.mem_map_of_mem hother)
    rw [List.foldl_cons]
    rcases List.mem_cons.mp hmem with rfl | hmem
    · exact mem_foldl_hashOne hbehind (fun other _ => hname other) (mem_hashOne_self hname he htext)
    · have hother : sameName name own = false := by
        rw [← Bool.not_eq_true, sameName_iff, eq_comm, ← sameName_iff, Bool.not_eq_true]
        exact hbehind name hmem
      exact ih hnodup.2 hmem (mem_hashOne hother (hname own) he)

theorem nodup_names (event : Event) : ((names event).map fold).Nodup := by
  rw [names, List.map_map]
  exact event.properties.nodup.sublist (List.filter_sublist.map _)

theorem mem_hashAllWith {session : Session} {event : Event} {e : Entry}
    (hname : Naming.IsOwn e.1) (hplain : e.2.isPersonal = false)
    (he : e ∈ event.properties.entries) :
    e ∈ (hashAllWith hash session event).1.properties.entries := by
  refine mem_foldl_hashOne (fun own hown => ?_) (fun own _ => hname own) he
  obtain ⟨other, hother, rfl⟩ := List.mem_map.mp hown
  obtain ⟨hmem, hpersonal⟩ := List.mem_filter.mp hother
  rw [← Bool.not_eq_true]
  intro hsame
  rw [Bag.eq_of_sameName he hmem hsame, hpersonal] at hplain
  exact absurd hplain (by decide)

theorem digest_mem_hashAllWith {session : Session} {event : Event} {name text : String}
    {inner : PropertyValue} (hname : Naming.IsOwn name)
    (he : (name, .personal inner) ∈ event.properties.entries)
    (htext : inner.invariantText = .ok text) :
    (name, .text (hash text)) ∈ (hashAllWith hash session event).1.properties.entries :=
  mem_foldl_hashOne_self hname (nodup_names event)
    (List.mem_map_of_mem (f := Prod.fst) (List.mem_filter.mpr ⟨he, rfl⟩)) he htext

end Personal

end EventGate
