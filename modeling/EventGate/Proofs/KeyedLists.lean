/-! # Lists of keyed values

A list of values with their keys, read as a map: of equal keys the first one counts. A value is put
behind all others, in place of the one that had its key.
-/

namespace EventGate

section

variable {β : Type}

theorem lookup_cons_eq_ite (first : String × β) (rest : List (String × β)) (key : String) :
    (first :: rest).lookup key = if key = first.1 then some first.2 else rest.lookup key := by
  obtain ⟨other, value⟩ := first
  by_cases h : key = other
  · simp [h]
  · simp [List.lookup_cons, h, beq_false_of_ne h]

theorem lookup_filter_key (entries : List (String × β)) (keeps : String → Bool) (key : String) :
    (entries.filter fun e => keeps e.1).lookup key =
      if keeps key = true then entries.lookup key else none := by
  induction entries with
  | nil => simp
  | cons first rest ih =>
    rw [lookup_cons_eq_ite]
    by_cases hkeeps : keeps first.1 = true
    · simp only [List.filter_cons, hkeeps, if_true, lookup_cons_eq_ite, ih]
      by_cases h : key = first.1 <;> simp [h, hkeeps]
    · simp only [List.filter_cons, hkeeps, if_false, Bool.false_eq_true, ih]
      by_cases h : key = first.1 <;> simp [h, hkeeps]

theorem lookup_filter_bne (entries : List (String × β)) (dropped key : String) :
    (entries.filter fun e => e.1 != dropped).lookup key =
      if key = dropped then none else entries.lookup key := by
  rw [lookup_filter_key entries (· != dropped) key]
  by_cases h : key = dropped <;> simp [h]

/-- In a list from the back the last value of a key counts. -/
theorem lookup_reverse_eq_some_iff {entries : List (String × β)} {key : String} {value : β} :
    entries.reverse.lookup key = some value ↔
      ∃ before after, entries = before ++ (key, value) :: after ∧ ∀ e ∈ after, e.1 ≠ key := by
  rw [List.lookup_eq_some_iff]
  constructor
  · intro ⟨behind, front, hsplit, hothers⟩
    refine ⟨front.reverse, behind.reverse, ?_, fun e he hkey => ?_⟩
    · rw [← List.reverse_reverse entries, hsplit]
      simp
    · simpa [hkey] using hothers e (List.mem_reverse.mp he)
  · intro ⟨before, after, hsplit, hothers⟩
    refine ⟨after.reverse, before.reverse, by simp [hsplit], fun e he => ?_⟩
    simpa using (hothers e (List.mem_reverse.mp he)).symm

/-! ## Putting a value -/

theorem lookup_put (entries : List (String × β)) (key : String) (value : β) (other : String) :
    ((entries.filter fun e => e.1 != key) ++ [(key, value)]).lookup other =
      if other = key then some value else entries.lookup other := by
  rw [List.lookup_append, lookup_filter_bne, lookup_cons_eq_ite]
  by_cases h : other = key <;> simp [h]

theorem nodup_keys_put {entries : List (String × β)} (h : (entries.map Prod.fst).Nodup)
    (key : String) (value : β) :
    (((entries.filter fun e => e.1 != key) ++ [(key, value)]).map Prod.fst).Nodup := by
  have hrest : (entries.filter fun e => e.1 != key).Sublist entries := List.filter_sublist
  rw [List.map_append, List.nodup_append]
  refine ⟨h.sublist (hrest.map _), List.pairwise_singleton _ _, ?_⟩
  simp

/-! ## Distinct keys -/

theorem lookup_eq_some_iff_mem {entries : List (String × β)}
    (hnodup : (entries.map Prod.fst).Nodup) {key : String} {value : β} :
    entries.lookup key = some value ↔ (key, value) ∈ entries := by
  induction entries with
  | nil => simp
  | cons first rest ih =>
    obtain ⟨own, first⟩ := first
    rw [List.map_cons, List.nodup_cons] at hnodup
    rw [lookup_cons_eq_ite, List.mem_cons, ← ih hnodup.2, Prod.mk.injEq]
    by_cases h : key = own
    · subst h
      have hnone : rest.lookup key ≠ some value := by
        intro hlookup
        exact hnodup.1 (List.mem_map.mpr ⟨(key, value), (ih hnodup.2).mp hlookup, rfl⟩)
      simp [hnone, eq_comm]
    · simp [h]

theorem lookup_eq_of_perm {entries others : List (String × β)}
    (hnodup : (entries.map Prod.fst).Nodup) (hperm : others.Perm entries) (key : String) :
    others.lookup key = entries.lookup key := by
  have hothers : (others.map Prod.fst).Nodup := (hperm.map Prod.fst).nodup_iff.mpr hnodup
  apply Option.ext
  intro value
  rw [lookup_eq_some_iff_mem hothers, lookup_eq_some_iff_mem hnodup, hperm.mem_iff]

end

end EventGate
