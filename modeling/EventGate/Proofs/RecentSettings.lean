import EventGate.Pipeline.SettingTable
import Mathlib.Data.Finset.Card

/-! # The most recent settings

The table of settings against the list of all keys by their last use. The table keeps the first keys
of this list, as many as it has room for. The ticks of its entries tell their order, so it does not
matter in which order the entries are kept.
-/

namespace EventGate.SettingTable

/-- The distinct keys of a history, the one that was observed last first. -/
def recency (history : List String) : List String :=
  history.dedup.reverse

theorem dedup_append_singleton (history : List String) (key : String) :
    (history ++ [key]).dedup = history.dedup.filter (· != key) ++ [key] := by
  induction history with
  | nil => rfl
  | cons first rest ih =>
    by_cases hrest : first ∈ rest
    · rw [List.cons_append, List.dedup_cons_of_mem (List.mem_append_left _ hrest), ih,
        List.dedup_cons_of_mem hrest]
    · rw [List.cons_append, List.dedup_cons_of_notMem hrest]
      by_cases hkey : first = key
      · subst hkey
        rw [List.dedup_cons_of_mem (by simp), ih]
        simp
      · rw [List.dedup_cons_of_notMem (by simp [hrest, hkey]), ih]
        simp [hkey]

theorem nodup_recency (history : List String) : (recency history).Nodup :=
  List.nodup_reverse.mpr (List.nodup_dedup history)

/-- A key that is observed comes first, and the others stay in their order. -/
theorem recency_append_singleton (history : List String) (key : String) :
    recency (history ++ [key]) = key :: (recency history).erase key := by
  rw [(nodup_recency history).erase_eq_filter, recency, dedup_append_singleton,
    List.reverse_append, recency, List.filter_reverse]
  rfl

theorem take_erase_take (key : String) (keys : List String) (room : Nat) :
    ((keys.take (room + 1)).erase key).take room = (keys.erase key).take room := by
  induction keys generalizing room with
  | nil => simp
  | cons first rest ih =>
    by_cases hkey : first = key
    · subst hkey
      simp [List.take_take]
    · cases room with
      | zero => simp
      | succ room => simp [hkey, ih]

theorem take_recency_append_singleton {limit : Nat} (hlimit : 0 < limit) (history : List String)
    (key : String) :
    (recency (history ++ [key])).take limit =
      (key :: ((recency history).take limit).erase key).take limit := by
  obtain ⟨room, rfl⟩ : ∃ room, limit = room + 1 := ⟨limit - 1, by omega⟩
  rw [recency_append_singleton, List.take_succ_cons, List.take_succ_cons, take_erase_take]

/-- Only the keys observed after the last time of a key come before it. -/
theorem recency_append_cons (before : List String) {key : String} {later : List String}
    (hlater : key ∉ later) :
    ∃ older, recency (before ++ key :: later) = recency later ++ key :: older := by
  have hsuffix : key :: later.dedup <:+ (before ++ key :: later).dedup := by
    rw [List.dedup_append, List.dedup_cons_of_notMem hlater]
    exact List.suffix_union_right _ _
  obtain ⟨older, holder⟩ := hsuffix
  refine ⟨older.reverse, ?_⟩
  rw [recency, ← holder]
  simp [recency]

/-- A key is among the most recent ones if fewer distinct keys than these were observed since. -/
theorem mem_take_recency_iff {limit : Nat} {history : List String} {key : String} :
    key ∈ (recency history).take limit ↔
      ∃ before later, history = before ++ key :: later ∧ key ∉ later ∧
        later.toFinset.card < limit := by
  have hplace : ∀ before later, key ∉ later →
      (key ∈ (recency (before ++ key :: later)).take limit ↔ later.toFinset.card < limit) := by
    intro before later hlater
    obtain ⟨older, hsplit⟩ := recency_append_cons before hlater
    have hlength : (recency later).length = later.toFinset.card := by
      rw [recency, List.length_reverse, List.card_toFinset]
    have hnot : key ∉ recency later := by simpa [recency] using hlater
    rw [hsplit, ← hlength]
    by_cases hlt : (recency later).length < limit
    · have hone : 0 < limit - (recency later).length := by omega
      simp [List.take_append, List.take_cons hone, hlt]
    · rw [List.take_append_of_le_length (by omega)]
      have hsub := List.take_subset limit (recency later)
      exact iff_of_false (fun hmem => hnot (hsub hmem)) hlt
  constructor
  · intro hmem
    have hkey : key ∈ history := by simpa [recency] using List.take_subset limit _ hmem
    obtain ⟨later, before, hreverse, hlater⟩ :=
      List.eq_append_cons_of_mem (List.mem_reverse.mpr hkey)
    have hsplit : history = before.reverse ++ key :: later.reverse := by
      rw [← List.reverse_reverse history, hreverse]
      simp
    have hlast : key ∉ later.reverse := by simpa using hlater
    rw [hsplit] at hmem
    exact ⟨_, _, hsplit, hlast, (hplace _ _ hlast).mp hmem⟩
  · rintro ⟨before, later, rfl, hlater, hcard⟩
    exact (hplace before later hlater).mpr hcard

/-! ## Entries -/

theorem oldest?_eq_some {entries : List (String × Nat)} {old : String × Nat}
    (h : oldest? entries = some old) : old ∈ entries ∧ ∀ e ∈ entries, old.2 ≤ e.2 := by
  induction entries generalizing old with
  | nil => simp [oldest?] at h
  | cons first rest ih =>
    unfold oldest? at h
    cases hrest : oldest? rest with
    | none =>
      have hnil : rest = [] := by
        cases rest with
        | nil => rfl
        | cons second rest =>
          unfold oldest? at hrest
          split at hrest
          · simp at hrest
          · split at hrest <;> simp at hrest
      simp only [hrest, Option.some.injEq] at h
      subst h hnil
      simp
    | some other =>
      obtain ⟨hmem, hleast⟩ := ih hrest
      simp only [hrest] at h
      by_cases hle : first.2 ≤ other.2
      · rw [if_pos hle, Option.some.injEq] at h
        subst h
        refine ⟨List.mem_cons_self, fun e he => ?_⟩
        rcases List.mem_cons.mp he with rfl | he
        · exact Nat.le_refl _
        · exact Nat.le_trans hle (hleast e he)
      · rw [if_neg hle, Option.some.injEq] at h
        subst h
        refine ⟨List.mem_cons_of_mem first hmem, fun e he => ?_⟩
        rcases List.mem_cons.mp he with rfl | he
        · omega
        · exact hleast e he

theorem exists_oldest?_of_ne_nil {entries : List (String × Nat)} (h : entries ≠ []) :
    ∃ old, oldest? entries = some old := by
  cases entries with
  | nil => exact absurd rfl h
  | cons first rest =>
    unfold oldest?
    split
    · exact ⟨first, rfl⟩
    · split <;> exact ⟨_, rfl⟩

theorem filter_ne_eq_self {key : String} {entries : List (String × Nat)}
    (hkey : key ∉ entries.map Prod.fst) : entries.filter (·.1 != key) = entries := by
  apply List.filter_eq_self.mpr
  intro e he
  exact bne_iff_ne.mpr fun heq => hkey (heq ▸ List.mem_map_of_mem he)

theorem map_fst_filter_ne (key : String) {entries : List (String × Nat)}
    (hdistinct : (entries.map Prod.fst).Nodup) :
    (entries.filter (·.1 != key)).map Prod.fst = (entries.map Prod.fst).erase key := by
  rw [hdistinct.erase_eq_filter, List.filter_map]
  rfl

theorem touch_eq_self {key : String} (tick : Nat) {entries : List (String × Nat)}
    (hkey : key ∉ entries.map Prod.fst) : touch key tick entries = entries := by
  have hsame : ∀ e ∈ entries, (if e.1 = key then (key, tick) else e) = e := by
    intro e he
    have hne : e.1 ≠ key := fun heq => hkey (heq ▸ List.mem_map_of_mem he)
    exact if_neg hne
  exact (List.map_congr_left hsame).trans (List.map_id' entries)

theorem touch_perm {key : String} (tick : Nat) {entries : List (String × Nat)}
    (hnodup : (entries.map Prod.fst).Nodup) (hkey : key ∈ entries.map Prod.fst) :
    (touch key tick entries).Perm ((key, tick) :: entries.filter (·.1 != key)) := by
  induction entries with
  | nil => exact absurd hkey (by simp)
  | cons first rest ih =>
    rw [List.map_cons, List.nodup_cons] at hnodup
    by_cases hfirst : first.1 = key
    · have hrest : key ∉ rest.map Prod.fst := hfirst ▸ hnodup.1
      have hdrop : (first :: rest).filter (·.1 != key) = rest.filter (·.1 != key) :=
        List.filter_cons_of_neg (by simp [hfirst])
      have hhead : touch key tick (first :: rest) = (key, tick) :: touch key tick rest := by
        simp [touch, hfirst]
      rw [hdrop, filter_ne_eq_self hrest, hhead, touch_eq_self tick hrest]
    · have hrest : key ∈ rest.map Prod.fst := by
        rw [List.map_cons, List.mem_cons] at hkey
        exact hkey.resolve_left (Ne.symm hfirst)
      have hkeep : (first :: rest).filter (·.1 != key) = first :: rest.filter (·.1 != key) :=
        List.filter_cons_of_pos (by simp [hfirst])
      have hhead : touch key tick (first :: rest) = first :: touch key tick rest := by
        simp [touch, hfirst]
      rw [hkeep, hhead]
      exact ((ih hnodup.2 hrest).cons first).trans (List.Perm.swap _ _ _)

/-! ## One observation -/

section

variable {table : SettingTable} {key : String}

theorem observe_of_mem (hkey : key ∈ table.keys) :
    table.observe key = (false, {
      table with
      tick := table.tick + 1
      entries := touch key (table.tick + 1) table.entries }) := by
  unfold observe
  rw [(isSome_lookup_iff key table.entries).mpr hkey]
  rfl

theorem observe_of_short (hkey : key ∉ table.keys) (hshort : table.size < table.capacity) :
    table.observe key = (true, {
      table with
      tick := table.tick + 1
      entries := table.entries ++ [(key, table.tick + 1)] }) := by
  have hnew : (table.entries.lookup key).isSome = false :=
    Bool.eq_false_iff.mpr (mt (isSome_lookup_iff key table.entries).mp hkey)
  have hlength : table.entries.length < table.capacity := hshort
  simp [observe, hnew, hlength]

theorem observe_of_full {old : String × Nat} (hkey : key ∉ table.keys)
    (hfull : table.capacity ≤ table.size) (hold : oldest? table.entries = some old) :
    table.observe key = (true, {
      table with
      tick := table.tick + 1
      entries := table.entries.filter (·.1 != old.1) ++ [(key, table.tick + 1)]
      evictions := table.evictions + 1 }) := by
  have hnew : (table.entries.lookup key).isSome = false :=
    Bool.eq_false_iff.mpr (mt (isSome_lookup_iff key table.entries).mp hkey)
  have hlength : ¬ table.entries.length < table.capacity := Nat.not_lt.mpr hfull
  simp [observe, hnew, hlength, hold]

/-- The entries of a table in the order of their ticks, the latest first. -/
structure Ranks (table : SettingTable) (ranked : List (String × Nat)) : Prop where
  perm : table.entries.Perm ranked
  distinct : (ranked.map Prod.fst).Nodup
  descending : ranked.Pairwise fun e f => f.2 < e.2
  past : ∀ e ∈ ranked, e.2 ≤ table.tick
  fits : ranked.length ≤ table.capacity

/-- The rank list after an observation: the key in front, and what there is no room for gone. -/
def rankAfter (table : SettingTable) (key : String) (ranked : List (String × Nat)) :
    List (String × Nat) :=
  ((key, table.tick + 1) :: ranked.filter (·.1 != key)).take table.capacity

namespace Ranks

variable {ranked : List (String × Nat)} (h : table.Ranks ranked)

include h

theorem keys_perm : table.keys.Perm (ranked.map Prod.fst) :=
  h.perm.map Prod.fst

theorem size_eq : table.size = ranked.length :=
  h.perm.length_eq

theorem filter_eq_self (hkey : key ∉ table.keys) : ranked.filter (·.1 != key) = ranked :=
  filter_ne_eq_self (mt h.keys_perm.mem_iff.mpr hkey)

theorem length_filter (hkey : key ∈ table.keys) :
    (ranked.filter (·.1 != key)).length + 1 = ranked.length := by
  have hperm := touch_perm 0 h.distinct (h.keys_perm.mem_iff.mp hkey)
  have hlength := hperm.length_eq
  simp only [touch, List.length_map, List.length_cons] at hlength
  omega

/-- The earliest tick is that of the last in rank. -/
theorem oldest?_eq {front : List (String × Nat)} {last : String × Nat}
    (hsplit : ranked = front ++ [last]) : oldest? table.entries = some last := by
  subst hsplit
  have hlast : last ∈ table.entries := h.perm.mem_iff.mpr (by simp)
  obtain ⟨old, hold⟩ := exists_oldest?_of_ne_nil (List.ne_nil_of_mem hlast)
  obtain ⟨hmem, hleast⟩ := oldest?_eq_some hold
  have hle : old.2 ≤ last.2 := hleast last hlast
  have hranked : old ∈ front ∨ old = last := by
    simpa using h.perm.mem_iff.mp hmem
  -- All others were seen after the last one in rank.
  rcases hranked with hfront | rfl
  · have hlt : last.2 < old.2 :=
      (List.pairwise_append.mp h.descending).2.2 old hfront last (by simp)
    omega
  · exact hold

theorem filter_perm {front : List (String × Nat)} {last : String × Nat}
    (hsplit : ranked = front ++ [last]) :
    (table.entries.filter (·.1 != last.1)).Perm front := by
  subst hsplit
  have hdistinct := h.distinct
  rw [List.map_append, List.nodup_append] at hdistinct
  have hfront : front.filter (·.1 != last.1) = front :=
    filter_ne_eq_self fun hmem => hdistinct.2.2 last.1 hmem last.1 (by simp) rfl
  have hperm := h.perm.filter (·.1 != last.1)
  rwa [List.filter_append, hfront, List.filter_singleton, bne_self_eq_false, cond_false,
    List.append_nil] at hperm

/-- Everything but the permutation holds of the new ranks however the table gets to them. -/
theorem of_perm (next : SettingTable) (hcapacity : next.capacity = table.capacity)
    (htick : next.tick = table.tick + 1)
    (hperm : next.entries.Perm (table.rankAfter key ranked)) :
    next.Ranks (table.rankAfter key ranked) := by
  have hsub : (table.rankAfter key ranked).Sublist
      ((key, table.tick + 1) :: ranked.filter (·.1 != key)) := List.take_sublist _ _
  have hfilter : (ranked.filter (·.1 != key)).Sublist ranked := List.filter_sublist
  constructor
  case perm => exact hperm
  case distinct =>
    apply (hsub.map Prod.fst).nodup
    rw [List.map_cons, List.nodup_cons]
    refine ⟨?_, (hfilter.map Prod.fst).nodup h.distinct⟩
    simp
  case descending =>
    apply List.Pairwise.sublist hsub
    rw [List.pairwise_cons]
    refine ⟨fun e he => ?_, h.descending.sublist hfilter⟩
    have := h.past e (hfilter.subset he)
    show e.2 < table.tick + 1
    omega
  case past =>
    intro e he
    rw [htick]
    rcases List.mem_cons.mp (hsub.subset he) with rfl | hold
    · exact Nat.le_refl _
    · have := h.past e (hfilter.subset hold)
      omega
  case fits =>
    rw [hcapacity]
    exact List.length_take_le _ _

theorem observe_mem (hkey : key ∈ table.keys) :
    (table.observe key).2.Ranks (table.rankAfter key ranked) ∧
      (table.observe key).2.evictions + (table.observe key).2.size =
        table.evictions + table.size := by
  rw [observe_of_mem hkey]
  have hcount := h.length_filter hkey
  have hfits := h.fits
  have hall : table.rankAfter key ranked =
      (key, table.tick + 1) :: ranked.filter (·.1 != key) := by
    apply List.take_of_length_le
    rw [List.length_cons]
    omega
  refine ⟨h.of_perm _ rfl rfl ?_, by simp [size, touch]⟩
  rw [hall]
  have hdistinct : table.keys.Nodup := h.keys_perm.nodup_iff.mpr h.distinct
  exact (touch_perm _ hdistinct hkey).trans ((h.perm.filter _).cons _)

theorem observe_short (hkey : key ∉ table.keys) (hshort : table.size < table.capacity) :
    (table.observe key).2.Ranks (table.rankAfter key ranked) ∧
      (table.observe key).2.evictions + (table.observe key).2.size =
        table.evictions + table.size + 1 := by
  rw [observe_of_short hkey hshort]
  have hsize := h.size_eq
  have hall : table.rankAfter key ranked = (key, table.tick + 1) :: ranked := by
    rw [rankAfter, h.filter_eq_self hkey]
    apply List.take_of_length_le
    rw [List.length_cons]
    omega
  refine ⟨h.of_perm _ rfl rfl ?_, by simp [size]; omega⟩
  rw [hall]
  exact (List.perm_append_singleton _ _).trans (h.perm.cons _)

theorem observe_full (hkey : key ∉ table.keys) (hroom : 0 < table.capacity)
    (hfull : table.capacity ≤ table.size) :
    (table.observe key).2.Ranks (table.rankAfter key ranked) ∧
      (table.observe key).2.evictions + (table.observe key).2.size =
        table.evictions + table.size + 1 := by
  have hsize := h.size_eq
  have hfits := h.fits
  obtain ⟨front, last, hsplit⟩ : ∃ front last, ranked = front ++ [last] := by
    rcases List.eq_nil_or_concat' ranked with rfl | hsplit
    · rw [List.length_nil] at hsize
      omega
    · exact hsplit
  have hlength : ranked.length = front.length + 1 := by simp [hsplit]
  have hkept := h.filter_perm hsplit
  have hfront : table.rankAfter key ranked = (key, table.tick + 1) :: front := by
    rw [rankAfter, h.filter_eq_self hkey, hsplit, ← List.cons_append]
    apply List.take_left'
    rw [List.length_cons]
    omega
  -- The key takes the place of the last one in rank, so that the table stays as full as it is.
  rw [observe_of_full hkey hfull (h.oldest?_eq hsplit)]
  refine ⟨h.of_perm _ rfl rfl ?_, ?_⟩
  · rw [hfront]
    exact (List.perm_append_singleton _ _).trans (hkept.cons _)
  · have hleft : (table.entries.filter (·.1 != last.1)).length = front.length := hkept.length_eq
    simp only [size, List.length_append, List.length_singleton, hleft]
    simp only [size] at hsize
    omega

/-- One observation, whether the table has the key, has room for it or gives up another. -/
theorem observe (hroom : 0 < table.capacity) (key : String) :
    (table.observe key).2.Ranks (table.rankAfter key ranked) ∧
      (table.observe key).2.evictions + (table.observe key).2.size =
        table.evictions + table.size + [(table.observe key).1].count true := by
  by_cases hkey : key ∈ table.keys
  · rw [(table.observe_fst_eq_false_iff key).mpr hkey]
    exact h.observe_mem hkey
  · rw [Bool.eq_true_of_not_eq_false (mt (table.observe_fst_eq_false_iff key).mp hkey)]
    by_cases hshort : table.size < table.capacity
    · exact h.observe_short hkey hshort
    · exact h.observe_full hkey hroom (by omega)

end Ranks

end

/-! ## Runs -/

/-- The tables that come of a new one by observing the keys of a history, with the answers. A table
may list its entries in another order at any time, as one that is hashed does. -/
inductive Observed (capacity : Nat) : List String → List Bool → SettingTable → Prop
  | start : Observed capacity [] [] (create capacity)
  | observe {history answers table} (key : String) : Observed capacity history answers table →
      Observed capacity (history ++ [key]) (answers ++ [(table.observe key).1])
        (table.observe key).2
  | reorder {history answers table} {entries : List (String × Nat)} :
      Observed capacity history answers table → entries.Perm table.entries →
        Observed capacity history answers { table with entries }

theorem capacity_tick_observe (table : SettingTable) (key : String) :
    (table.observe key).2.capacity = table.capacity ∧
      (table.observe key).2.tick = table.tick + 1 := by
  unfold observe
  split
  · exact ⟨rfl, rfl⟩
  · split
    · exact ⟨rfl, rfl⟩
    · split <;> exact ⟨rfl, rfl⟩

structure Follows (limit : Nat) (history : List String) (answers : List Bool)
    (table : SettingTable) : Prop where
  capacity_eq : table.capacity = limit
  tick_eq : table.tick = history.length
  ranks : ∃ ranked, table.Ranks ranked ∧ ranked.map Prod.fst = (recency history).take limit
  counts : table.evictions + table.size = answers.count true

namespace Follows

variable {limit : Nat} {history : List String} {answers : List Bool} {table : SettingTable}

theorem start (capacity : Nat) : Follows (max capacity 1) [] [] (create capacity) where
  capacity_eq := rfl
  tick_eq := rfl
  ranks := ⟨[], ⟨.nil, .nil, .nil, by simp, Nat.zero_le _⟩, by simp [recency]⟩
  counts := rfl

theorem reorder (h : Follows limit history answers table) {entries : List (String × Nat)}
    (hperm : entries.Perm table.entries) :
    Follows limit history answers { table with entries } := by
  obtain ⟨ranked, hranks, hkeys⟩ := h.ranks
  refine ⟨h.capacity_eq, h.tick_eq, ⟨ranked, ?_, hkeys⟩, ?_⟩
  · exact { hranks with perm := hperm.trans hranks.perm }
  · rw [← h.counts, size, size, hperm.length_eq]

theorem observe (h : Follows limit history answers table) (hlimit : 0 < limit) (key : String) :
    Follows limit (history ++ [key]) (answers ++ [(table.observe key).1])
      (table.observe key).2 := by
  obtain ⟨ranked, hranks, hkeys⟩ := h.ranks
  obtain ⟨hnext, hcount⟩ := hranks.observe (h.capacity_eq ▸ hlimit) key
  obtain ⟨hcapacity, htick⟩ := table.capacity_tick_observe key
  constructor
  case capacity_eq => rw [hcapacity, h.capacity_eq]
  case tick_eq => rw [htick, h.tick_eq, List.length_append, List.length_singleton]
  case ranks =>
    refine ⟨_, hnext, ?_⟩
    rw [take_recency_append_singleton hlimit, rankAfter, List.map_take, List.map_cons,
      map_fst_filter_ne key hranks.distinct, hkeys, h.capacity_eq]
  case counts => rw [hcount, h.counts, List.count_append]

theorem keys_perm (h : Follows limit history answers table) :
    table.keys.Perm ((recency history).take limit) := by
  obtain ⟨ranked, hranks, hkeys⟩ := h.ranks
  exact hkeys ▸ hranks.keys_perm

theorem observe_fst (h : Follows limit history answers table) (key : String) :
    (table.observe key).1 = decide (key ∉ (recency history).take limit) := by
  have hiff := (table.observe_fst_eq_false_iff key).trans h.keys_perm.mem_iff
  cases hanswer : (table.observe key).1 with
  | false => simpa using hiff.mp hanswer
  | true =>
    have hnot := mt hiff.mpr (by simp [hanswer])
    simpa using hnot

end Follows

namespace Observed

variable {capacity : Nat} {history : List String} {answers : List Bool} {table : SettingTable}

theorem exists_of_history (capacity : Nat) (history : List String) :
    ∃ answers table, Observed capacity history answers table := by
  induction history using List.reverseRecOn with
  | nil => exact ⟨[], create capacity, .start⟩
  | append_singleton history key ih =>
    obtain ⟨answers, table, hrun⟩ := ih
    exact ⟨_, _, hrun.observe key⟩

theorem follows (h : Observed capacity history answers table) :
    Follows (max capacity 1) history answers table := by
  induction h with
  | start => exact Follows.start capacity
  | observe key _ ih => exact ih.observe (by omega) key
  | reorder _ hperm ih => exact ih.reorder hperm

theorem answers_eq (h : Observed capacity history answers table) :
    answers.length = history.length ∧
      ∀ {before key later}, history = before ++ key :: later →
        answers[before.length]? =
          some (decide (key ∉ (recency before).take (max capacity 1))) := by
  induction h with
  | start => simp
  | @observe history answers table last hrun ih =>
    obtain ⟨hlength, hanswers⟩ := ih
    refine ⟨by simp [hlength], fun {before key later} hsplit => ?_⟩
    -- The answer asked for is the last one, or one of those before.
    rcases List.eq_nil_or_concat' later with rfl | ⟨front, other, rfl⟩
    · obtain ⟨rfl, hlast⟩ := List.append_inj' hsplit rfl
      obtain rfl : last = key := by simpa using hlast
      rw [← hrun.follows.observe_fst, ← hlength, List.getElem?_concat_length]
    · have hinit : history = before ++ key :: front := by
        rw [← List.cons_append, ← List.append_assoc] at hsplit
        exact (List.append_inj' hsplit rfl).1
      have hshort : before.length < answers.length := by simp [hlength, hinit]
      rw [List.getElem?_append_left hshort]
      exact hanswers hinit
  | reorder _ _ ih => exact ih

/-- The table of settings remembers the most recent keys. Of a history of observations it has
exactly the keys observed last, as many as it has room for, and a key is new exactly if it is not
among them; whatever leaves the table was new once. No order of the entries changes any of this. -/
theorem remembers_most_recent (h : Observed capacity history answers table) :
    table.keys.Perm ((recency history).take (max capacity 1)) ∧
      table.size = min (max capacity 1) history.toFinset.card ∧
      table.size ≤ max capacity 1 ∧
      (∀ key, key ∈ table.keys ↔ ∃ before later, history = before ++ key :: later ∧
        key ∉ later ∧ later.toFinset.card < max capacity 1) ∧
      (∀ key, (table.observe key).1 = true ↔ key ∉ (recency history).take (max capacity 1)) ∧
      (answers.length = history.length ∧
        ∀ {before key later}, history = before ++ key :: later →
          answers[before.length]? =
            some (decide (key ∉ (recency before).take (max capacity 1)))) ∧
      table.evictions + table.size = answers.count true ∧
      table.tick = history.length := by
  have hfollows := h.follows
  have hsize : table.size = min (max capacity 1) history.toFinset.card := by
    have hlength : table.keys.length = _ := hfollows.keys_perm.length_eq
    rw [List.length_take, recency, List.length_reverse, ← List.card_toFinset] at hlength
    rw [← hlength, keys, List.length_map, size]
  refine ⟨hfollows.keys_perm, hsize, ?_, fun key => ?_, fun key => ?_, h.answers_eq,
    hfollows.counts, hfollows.tick_eq⟩
  · omega
  · rw [hfollows.keys_perm.mem_iff, mem_take_recency_iff]
  · rw [hfollows.observe_fst, decide_eq_true_iff]

/-- Three keys have room, and the first one is observed again ahead of a fourth. -/
theorem fourth_key_takes_the_place_of_second :
    ∃ table, Observed 3 ["a", "b", "c", "a", "d"] [true, true, true, false, true] table ∧
      table.keys.Perm ["d", "a", "c"] ∧ (table.observe "b").1 = true ∧ table.evictions = 1 := by
  have hthree : Observed 3 ["a", "b", "c"] [true, true, true]
      ⟨3, 3, [("a", 1), ("b", 2), ("c", 3)], 0⟩ :=
    ((Observed.start.observe "a").observe "b").observe "c"
  have hturned : Observed 3 ["a", "b", "c"] [true, true, true]
      ⟨3, 3, [("c", 3), ("a", 1), ("b", 2)], 0⟩ :=
    hthree.reorder (by decide)
  have hfive : Observed 3 ["a", "b", "c", "a", "d"] [true, true, true, false, true]
      ⟨3, 5, [("c", 3), ("a", 4), ("d", 5)], 1⟩ :=
    (hturned.observe "a").observe "d"
  obtain ⟨hkeys, -, -, -, hnew, -, -, -⟩ := remembers_most_recent hfive
  exact ⟨_, hfive, hkeys, (hnew "b").mpr (by decide), rfl⟩

end Observed

end EventGate.SettingTable
