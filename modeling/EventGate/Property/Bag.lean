import EventGate.Property.NameSet
import EventGate.Property.Value

/-! # Property bags

The properties of an event, in the order in which their names first came. Names that are the same
up to case are one name, and the last spelling and value of it are kept.
-/

namespace EventGate

open Text

abbrev Entry := String × PropertyValue

namespace Entries

def keys (entries : List Entry) : List String :=
  entries.map fun e => fold e.1

/-- Puts a named value in the place of the entry of that name, or at the end, and hands out the
value that was there. -/
def exchange (name : String) (value : PropertyValue) :
    List Entry → Option PropertyValue × List Entry
  | [] => (none, [(name, value)])
  | e :: rest =>
    if sameName e.1 name then (some e.2, (name, value) :: rest)
    else
      let (previous?, rest) := exchange name value rest
      (previous?, e :: rest)

def insert (name : String) (value : PropertyValue) (entries : List Entry) : List Entry :=
  (exchange name value entries).2

def modify (name : String) (change : PropertyValue → PropertyValue) : List Entry → List Entry
  | [] => []
  | e :: rest =>
    if sameName e.1 name then (e.1, change e.2) :: rest else e :: modify name change rest

/-- Takes out the entry of that name, and hands it out. -/
def remove (name : String) : List Entry → Option Entry × List Entry
  | [] => (none, [])
  | e :: rest =>
    if sameName e.1 name then (some e, rest)
    else
      let (removed?, rest) := remove name rest
      (removed?, e :: rest)

def erase (name : String) (entries : List Entry) : List Entry :=
  (remove name entries).2

theorem exchange_cons (name : String) (value : PropertyValue) (e : Entry) (rest : List Entry) :
    exchange name value (e :: rest) =
      if sameName e.1 name then (some e.2, (name, value) :: rest)
      else ((exchange name value rest).1, e :: insert name value rest) := rfl

theorem remove_cons (name : String) (e : Entry) (rest : List Entry) :
    remove name (e :: rest) =
      if sameName e.1 name then (some e, rest)
      else ((remove name rest).1, e :: erase name rest) := rfl

theorem insert_nil (name : String) (value : PropertyValue) :
    insert name value [] = [(name, value)] := rfl

theorem insert_cons (name : String) (value : PropertyValue) (e : Entry) (rest : List Entry) :
    insert name value (e :: rest) =
      if sameName e.1 name then (name, value) :: rest else e :: insert name value rest := by
  rw [insert, exchange_cons]
  split <;> rfl

theorem erase_cons (name : String) (e : Entry) (rest : List Entry) :
    erase name (e :: rest) = if sameName e.1 name then rest else e :: erase name rest := by
  rw [erase, remove_cons]
  split <;> rfl

theorem exchange_fst (name : String) (value : PropertyValue) (entries : List Entry) :
    (exchange name value entries).1 =
      (entries.find? fun e => sameName e.1 name).map Prod.snd := by
  induction entries with
  | nil => rfl
  | cons e rest ih =>
    rw [exchange_cons, List.find?_cons]
    cases sameName e.1 name with
    | true => rfl
    | false => exact ih

theorem remove_fst (name : String) (entries : List Entry) :
    (remove name entries).1 = entries.find? fun e => sameName e.1 name := by
  induction entries with
  | nil => rfl
  | cons e rest ih =>
    rw [remove_cons, List.find?_cons]
    cases sameName e.1 name with
    | true => rfl
    | false => exact ih

@[simp] theorem keys_nil : keys [] = [] := rfl

@[simp] theorem keys_cons (e : Entry) (rest : List Entry) :
    keys (e :: rest) = fold e.1 :: keys rest := rfl

theorem keys_insert (name : String) (value : PropertyValue) (entries : List Entry) :
    keys (insert name value entries) =
      if fold name ∈ keys entries then keys entries else keys entries ++ [fold name] := by
  induction entries with
  | nil => simp [insert_nil]
  | cons e rest ih =>
    rw [insert_cons]
    by_cases h : sameName e.1 name = true
    · rw [if_pos h, keys_cons, keys_cons, (sameName_iff _ _).1 h]
      simp
    · rw [if_neg h, keys_cons, keys_cons, ih]
      have hne : fold name ≠ fold e.1 := fun heq => h ((sameName_iff _ _).2 heq.symm)
      by_cases hm : fold name ∈ keys rest <;> simp [hm, hne]

theorem keys_modify (name : String) (change : PropertyValue → PropertyValue)
    (entries : List Entry) : keys (modify name change entries) = keys entries := by
  induction entries with
  | nil => rfl
  | cons e rest ih =>
    unfold modify
    split
    · rfl
    · rw [keys_cons, keys_cons, ih]

theorem erase_sublist (name : String) (entries : List Entry) :
    (erase name entries).Sublist entries := by
  induction entries with
  | nil => exact List.Sublist.refl _
  | cons e rest ih =>
    rw [erase_cons]
    split
    · exact List.sublist_cons_self e rest
    · exact ih.cons_cons e

theorem keys_sublist {some all : List Entry} (h : some.Sublist all) :
    (keys some).Sublist (keys all) :=
  h.map _

end Entries

/-- Named values in order, with one entry for each name. -/
structure Bag where
  entries : List Entry
  nodup : (Entries.keys entries).Nodup

namespace Bag

def empty : Bag := ⟨[], List.nodup_nil⟩

instance : Inhabited Bag := ⟨empty⟩

def size (bag : Bag) : Nat :=
  bag.entries.length

def isEmpty (bag : Bag) : Bool :=
  bag.entries.isEmpty

def names (bag : Bag) : List String :=
  bag.entries.map Prod.fst

def find? (bag : Bag) (name : String) : Option Entry :=
  bag.entries.find? fun e => sameName e.1 name

def get? (bag : Bag) (name : String) : Option PropertyValue :=
  (bag.find? name).map Prod.snd

def contains (bag : Bag) (name : String) : Bool :=
  (bag.find? name).isSome

theorem nodup_insert (bag : Bag) (name : String) (value : PropertyValue) :
    (Entries.keys (Entries.insert name value bag.entries)).Nodup := by
  rw [Entries.keys_insert]
  split
  · exact bag.nodup
  · next h =>
    rw [List.nodup_append]
    refine ⟨bag.nodup, by simp, ?_⟩
    rintro a ha b hb rfl
    rw [List.mem_singleton] at hb
    exact h (hb ▸ ha)

def exchange (bag : Bag) (name : String) (value : PropertyValue) : Option PropertyValue × Bag :=
  let exchanged := Entries.exchange name value bag.entries
  (exchanged.1, ⟨exchanged.2, bag.nodup_insert name value⟩)

def insert (bag : Bag) (name : String) (value : PropertyValue) : Bag :=
  (bag.exchange name value).2

/-- Changes the value under a name, if there is one. -/
def modify (bag : Bag) (name : String) (change : PropertyValue → PropertyValue) : Bag :=
  ⟨Entries.modify name change bag.entries, by
    rw [Entries.keys_modify]
    exact bag.nodup⟩

def remove (bag : Bag) (name : String) : Option Entry × Bag :=
  let removed := Entries.remove name bag.entries
  (removed.1, ⟨removed.2,
    bag.nodup.sublist (Entries.keys_sublist (Entries.erase_sublist name bag.entries))⟩)

def erase (bag : Bag) (name : String) : Bag :=
  (bag.remove name).2

/-- Keeps the entries that satisfy a test, in their order. -/
def retain (bag : Bag) (keep : Entry → Bool) : Bag :=
  ⟨bag.entries.filter keep, bag.nodup.sublist (Entries.keys_sublist List.filter_sublist)⟩

def mapValues (bag : Bag) (change : PropertyValue → PropertyValue) : Bag :=
  ⟨bag.entries.map fun e => (e.1, change e.2), by
    have h : Entries.keys (bag.entries.map fun e => (e.1, change e.2)) =
        Entries.keys bag.entries := by
      simp [Entries.keys]
    rw [h]
    exact bag.nodup⟩

def ofList (entries : List Entry) : Bag :=
  entries.foldl (fun bag e => bag.insert e.1 e.2) empty

def sameEntries : List Entry → List Entry → Bool
  | [], [] => true
  | a :: as, b :: bs => a.1 == b.1 && a.2.same b.2 && sameEntries as bs
  | _, _ => false

/-- Equality of names, values and order. -/
def same (a b : Bag) : Bool :=
  sameEntries a.entries b.entries

@[simp] theorem entries_empty : empty.entries = [] := rfl

@[simp] theorem exchange_fst (bag : Bag) (name : String) (value : PropertyValue) :
    (bag.exchange name value).1 = bag.get? name :=
  Entries.exchange_fst name value bag.entries

@[simp] theorem remove_fst (bag : Bag) (name : String) :
    (bag.remove name).1 = bag.find? name :=
  Entries.remove_fst name bag.entries

theorem contains_iff (bag : Bag) (name : String) :
    bag.contains name = true ↔ fold name ∈ Entries.keys bag.entries := by
  simp [contains, find?, Entries.keys, sameName_iff]

end Bag

end EventGate
