/-! # The table of settings

The settings seen most recently, each with the tick at which it was seen last. A full table gives
up the one that was seen least recently.
-/

namespace EventGate

structure SettingTable where
  capacity : Nat
  tick : Nat
  entries : List (String × Nat)
  evictions : Nat
deriving DecidableEq, Repr

namespace SettingTable

def create (capacity : Nat) : SettingTable :=
  ⟨max capacity 1, 0, [], 0⟩

def standardCapacity : Nat := 1024

def size (table : SettingTable) : Nat :=
  table.entries.length

def oldest? : List (String × Nat) → Option (String × Nat)
  | [] => none
  | e :: rest =>
    match oldest? rest with
    | none => some e
    | some other => if e.2 ≤ other.2 then some e else some other

def touch (key : String) (tick : Nat) (entries : List (String × Nat)) : List (String × Nat) :=
  entries.map fun e => if e.1 = key then (key, tick) else e

/-- Records a key; tells whether it was not there. -/
def observe (table : SettingTable) (key : String) : Bool × SettingTable :=
  let tick := table.tick + 1
  if (table.entries.lookup key).isSome then
    (false, { table with tick, entries := touch key tick table.entries })
  else if table.entries.length < table.capacity then
    (true, { table with tick, entries := table.entries ++ [(key, tick)] })
  else
    match oldest? table.entries with
    | none => (true, { table with tick, entries := [(key, tick)] })
    | some old =>
      let kept := table.entries.filter fun e => e.1 != old.1
      (true, {
        table with
        tick
        entries := kept ++ [(key, tick)]
        evictions := table.evictions + 1 })

/-! ## Keys -/

def keys (table : SettingTable) : List String :=
  table.entries.map Prod.fst

@[simp] theorem keys_create (capacity : Nat) : (create capacity).keys = [] := rfl

theorem map_fst_touch (key : String) (tick : Nat) (entries : List (String × Nat)) :
    (touch key tick entries).map Prod.fst = entries.map Prod.fst := by
  rw [touch, List.map_map]
  refine List.map_congr_left fun e _ => ?_
  dsimp only [Function.comp]
  split
  next h => exact h.symm
  next => rfl

theorem isSome_lookup_iff (key : String) (entries : List (String × Nat)) :
    (entries.lookup key).isSome = true ↔ key ∈ entries.map Prod.fst := by
  induction entries with
  | nil => simp
  | cons e rest ih =>
    rw [List.lookup_cons, List.map_cons, List.mem_cons, ← ih]
    cases h : key == e.1 with
    | true => simp [eq_of_beq h]
    | false => simp [ne_of_beq_false h]

theorem observe_fst_eq_false_iff (table : SettingTable) (key : String) :
    (table.observe key).1 = false ↔ key ∈ table.keys := by
  rw [keys, ← isSome_lookup_iff]
  unfold observe
  cases (table.entries.lookup key).isSome with
  | true => simp
  | false =>
    simp only [Bool.false_eq_true, if_false, iff_false]
    split
    · simp
    · split <;> simp

theorem self_mem_keys_observe (table : SettingTable) (key : String) :
    key ∈ (table.observe key).2.keys := by
  unfold observe
  cases hlookup : (table.entries.lookup key).isSome with
  | true =>
    rw [if_pos rfl, keys, map_fst_touch]
    exact (isSome_lookup_iff key table.entries).mp hlookup
  | false =>
    simp only [Bool.false_eq_true, if_false]
    split
    · simp [keys]
    · split <;> simp [keys]

/-- Seeing a key makes the table have no other key that it did not have. -/
theorem mem_keys_observe {table : SettingTable} {key other : String}
    (h : other ∈ (table.observe key).2.keys) : other = key ∨ other ∈ table.keys := by
  unfold observe at h
  cases hlookup : (table.entries.lookup key).isSome with
  | true =>
    simp only [hlookup, if_true, keys, map_fst_touch] at h
    exact .inr h
  | false =>
    simp only [hlookup, Bool.false_eq_true, if_false] at h
    split at h
    · simp only [keys, List.map_append, List.mem_append] at h
      exact h.symm.imp_left List.mem_singleton.mp
    · split at h
      · exact .inl (List.mem_singleton.mp h)
      · simp only [keys, List.map_append, List.mem_append] at h
        exact h.symm.imp List.mem_singleton.mp fun hkept => (List.filter_sublist.map _).subset hkept

end SettingTable

end EventGate
