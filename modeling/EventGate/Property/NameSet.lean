import EventGate.Text.Fold

/-! # Sets of names

A set of names that are the same up to case. It keeps the folded form of each, once.
-/

namespace EventGate

open Text

/-- A set of names under case folding. -/
structure NameSet where
  folded : List String
  nodup : folded.Nodup
deriving DecidableEq

namespace NameSet

def empty : NameSet := ⟨[], List.nodup_nil⟩

instance : Inhabited NameSet := ⟨empty⟩

def contains (set : NameSet) (name : String) : Bool :=
  set.folded.contains (fold name)

theorem contains_iff (set : NameSet) (name : String) :
    set.contains name = true ↔ fold name ∈ set.folded := by
  simp [contains]

/-- Puts in a name, and tells whether it is new. -/
def add (set : NameSet) (name : String) : Bool × NameSet :=
  if h : fold name ∈ set.folded then (false, set)
  else (true, ⟨set.folded ++ [fold name], by
    rw [List.nodup_append]
    refine ⟨set.nodup, by simp, ?_⟩
    rintro a ha b hb rfl
    rw [List.mem_singleton] at hb
    exact h (hb ▸ ha)⟩)

def insert (set : NameSet) (name : String) : NameSet :=
  (set.add name).2

/-- Takes out a name, and tells whether it was in. -/
def remove (set : NameSet) (name : String) : Bool × NameSet :=
  (set.folded.contains (fold name),
    ⟨set.folded.filter (· != fold name), set.nodup.filter _⟩)

def erase (set : NameSet) (name : String) : NameSet :=
  (set.remove name).2

def ofList (names : List String) : NameSet :=
  names.foldl insert empty

def size (set : NameSet) : Nat :=
  set.folded.length

def isEmpty (set : NameSet) : Bool :=
  set.folded.isEmpty

/-- The folded names in the order of their characters. -/
def sorted (set : NameSet) : List String :=
  set.folded.mergeSort fun a b => decide (a ≤ b)

@[simp] theorem contains_empty (name : String) : empty.contains name = false := by
  simp [contains, empty]

@[simp] theorem add_fst (set : NameSet) (name : String) :
    (set.add name).1 = !set.contains name := by
  unfold add contains
  split <;> simp [*]

@[simp] theorem remove_fst (set : NameSet) (name : String) :
    (set.remove name).1 = set.contains name := rfl

@[simp] theorem mem_folded_insert (set : NameSet) (name key : String) :
    key ∈ (set.insert name).folded ↔ key ∈ set.folded ∨ key = fold name := by
  unfold insert add
  split
  · next h =>
    constructor
    · exact Or.inl
    · rintro (hk | rfl)
      · exact hk
      · exact h
  · simp

theorem contains_insert (set : NameSet) (name other : String) :
    (set.insert name).contains other = (set.contains other || sameName name other) := by
  rw [Bool.eq_iff_iff, contains_iff, mem_folded_insert, Bool.or_eq_true, contains_iff,
    sameName_iff, eq_comm (a := fold other)]

theorem contains_erase (set : NameSet) (name other : String) :
    (set.erase name).contains other = (set.contains other && !sameName name other) := by
  rw [Bool.eq_iff_iff, contains_iff, Bool.and_eq_true, contains_iff, Bool.not_eq_true',
    ← Bool.not_eq_true, sameName_iff]
  simp only [erase, remove, List.mem_filter, bne_iff_ne, ne_eq]
  rw [eq_comm (a := fold other)]

end NameSet

end EventGate
