import EventGate.Property.Bag

/-! # The entries of bags

What the operations on bags do to the entries. As the names of a bag differ by more than case, an
operation on a name touches one entry at most.
-/

namespace EventGate

open Text

namespace Text

theorem sameName_comm (a b : String) : sameName a b = sameName b a := by
  rw [Bool.eq_iff_iff, sameName_iff, sameName_iff]
  exact eq_comm

theorem sameName_congr {a b : String} (h : sameName a b = true) (other : String) :
    sameName a other = sameName b other := by
  rw [Bool.eq_iff_iff, sameName_iff, sameName_iff, (sameName_iff a b).mp h]

end Text

namespace Entries

theorem sameName_of_mem_rest {first : Entry} {rest : List Entry} {name : String}
    (hnodup : (keys (first :: rest)).Nodup) (hfirst : sameName first.1 name = true) {e : Entry}
    (he : e ∈ rest) : sameName e.1 name = false := by
  rw [keys_cons, List.nodup_cons] at hnodup
  rw [← Bool.not_eq_true, sameName_iff]
  intro hsame
  have hkey : fold first.1 = fold e.1 := ((sameName_iff _ _).1 hfirst).trans hsame.symm
  exact hnodup.1 (hkey ▸ List.mem_map_of_mem he)

/-- Of the entries of one name there is but one. -/
theorem eq_of_sameName {entries : List Entry} (hnodup : (keys entries).Nodup) {e other : Entry}
    (he : e ∈ entries) (hother : other ∈ entries) (h : sameName e.1 other.1 = true) :
    e = other := by
  induction entries with
  | nil => exact absurd he List.not_mem_nil
  | cons first rest ih =>
    have hbehind : ∀ {x : Entry}, x ∈ rest → fold x.1 ≠ fold first.1 := by
      intro x hx heq
      have hkey : fold x.1 ∈ keys rest := List.mem_map_of_mem hx
      rw [heq] at hkey
      exact (List.nodup_cons.mp hnodup).1 hkey
    have hsame : fold e.1 = fold other.1 := (sameName_iff _ _).mp h
    rcases List.mem_cons.mp he with rfl | hrest
    · rcases List.mem_cons.mp hother with rfl | hrest
      · rfl
      · exact absurd hsame.symm (hbehind hrest)
    · rcases List.mem_cons.mp hother with rfl | hrest'
      · exact absurd hsame (hbehind hrest)
      · exact ih (List.nodup_cons.mp hnodup).2 hrest hrest'

theorem sameName_of_mem_ahead {done back : List Entry} {e : Entry}
    (hnodup : (keys (done ++ e :: back)).Nodup) :
    ∀ other ∈ done, sameName other.1 e.1 = false := by
  intro other hother
  rw [keys, List.map_append, List.map_cons, List.nodup_append] at hnodup
  rw [← Bool.not_eq_true, sameName_iff]
  exact hnodup.2.2 _ (List.mem_map_of_mem hother) _ List.mem_cons_self

theorem insert_append {name : String} {done : List Entry}
    (hdone : ∀ e ∈ done, sameName e.1 name = false) (value : PropertyValue)
    (back : List Entry) :
    insert name value (done ++ back) = done ++ insert name value back := by
  induction done with
  | nil => rfl
  | cons first done ih =>
    obtain ⟨hfirst, hdone⟩ := List.forall_mem_cons.mp hdone
    rw [List.cons_append, insert_cons, hfirst, if_neg Bool.false_ne_true, ih hdone]
    rfl

theorem erase_append {name : String} {done : List Entry}
    (hdone : ∀ e ∈ done, sameName e.1 name = false) (back : List Entry) :
    erase name (done ++ back) = done ++ erase name back := by
  induction done with
  | nil => rfl
  | cons first done ih =>
    obtain ⟨hfirst, hdone⟩ := List.forall_mem_cons.mp hdone
    rw [List.cons_append, erase_cons, hfirst, if_neg Bool.false_ne_true, ih hdone]
    rfl

theorem mem_insert_iff {name : String} {value : PropertyValue} {entries : List Entry}
    (hnodup : (keys entries).Nodup) {e : Entry} :
    e ∈ insert name value entries ↔
      e = (name, value) ∨ e ∈ entries ∧ sameName e.1 name = false := by
  induction entries with
  | nil => simp [insert_nil]
  | cons first rest ih =>
    have ih := ih (List.nodup_cons.mp hnodup).2
    rw [insert_cons]
    cases hfirst : sameName first.1 name with
    | true =>
      have hrest : e ∈ rest → sameName e.1 name = false := sameName_of_mem_rest hnodup hfirst
      rw [if_pos rfl, List.mem_cons, List.mem_cons]
      constructor
      · rintro (he | he)
        · exact .inl he
        · exact .inr ⟨.inr he, hrest he⟩
      · rintro (he | ⟨rfl | he, hne⟩)
        · exact .inl he
        · rw [hfirst] at hne
          exact absurd hne (by decide)
        · exact .inr he
    | false =>
      rw [if_neg Bool.false_ne_true, List.mem_cons, ih, List.mem_cons]
      constructor
      · rintro (rfl | he | ⟨he, hne⟩)
        · exact .inr ⟨.inl rfl, hfirst⟩
        · exact .inl he
        · exact .inr ⟨.inr he, hne⟩
      · rintro (he | ⟨rfl | he, hne⟩)
        · exact .inr (.inl he)
        · exact .inl rfl
        · exact .inr (.inr ⟨he, hne⟩)

/-- Taking out an entry takes out every entry of its name, as there is but one. -/
theorem erase_eq_filter (name : String) {entries : List Entry} (hnodup : (keys entries).Nodup) :
    erase name entries = entries.filter fun e => !sameName e.1 name := by
  induction entries with
  | nil => rfl
  | cons first rest ih =>
    have ih := ih (List.nodup_cons.mp hnodup).2
    rw [erase_cons]
    cases hfirst : sameName first.1 name with
    | true =>
      have hrest : ∀ e ∈ rest, (!sameName e.1 name) = true := by
        intro e he
        rw [sameName_of_mem_rest hnodup hfirst he, Bool.not_false]
      rw [if_pos rfl, List.filter_cons_of_neg (by simp [hfirst]), List.filter_eq_self.mpr hrest]
    | false =>
      rw [if_neg Bool.false_ne_true, List.filter_cons_of_pos (by simp [hfirst]), ih]

theorem mem_erase_iff {name : String} {entries : List Entry} (hnodup : (keys entries).Nodup)
    {e : Entry} : e ∈ erase name entries ↔ e ∈ entries ∧ sameName e.1 name = false := by
  rw [erase_eq_filter name hnodup, List.mem_filter, Bool.not_eq_true']

theorem modify_append {name : String} {change : PropertyValue → PropertyValue} {done : List Entry}
    (hdone : ∀ e ∈ done, sameName e.1 name = false) (back : List Entry) :
    modify name change (done ++ back) = done ++ modify name change back := by
  induction done with
  | nil => rfl
  | cons first done ih =>
    obtain ⟨hfirst, hdone⟩ := List.forall_mem_cons.mp hdone
    rw [List.cons_append, modify, hfirst, if_neg Bool.false_ne_true, ih hdone]
    rfl

theorem modify_eq_map (name : String) (change : PropertyValue → PropertyValue)
    {entries : List Entry} (hnodup : (keys entries).Nodup) :
    modify name change entries =
      entries.map fun e => if sameName e.1 name then (e.1, change e.2) else e := by
  induction entries with
  | nil => rfl
  | cons first rest ih =>
    have ih := ih (List.nodup_cons.mp hnodup).2
    unfold modify
    rw [List.map_cons]
    cases hfirst : sameName first.1 name with
    | true =>
      have hrest : ∀ e ∈ rest, (if sameName e.1 name then (e.1, change e.2) else e) = e := by
        intro e he
        rw [sameName_of_mem_rest hnodup hfirst he, if_neg Bool.false_ne_true]
      rw [if_pos rfl, if_pos rfl, List.map_congr_left hrest, List.map_id']
    | false => rw [if_neg Bool.false_ne_true, if_neg Bool.false_ne_true, ih]

theorem keys_map (change : Entry → Entry) (hname : ∀ e, (change e).1 = e.1)
    (entries : List Entry) : keys (entries.map change) = keys entries := by
  simp [keys, hname]

theorem keys_filter {entries : List Entry} {keep : Entry → Bool} {keepKey : String → Bool}
    (h : ∀ e ∈ entries, keep e = keepKey (fold e.1)) :
    keys (entries.filter keep) = (keys entries).filter keepKey := by
  rw [keys, keys, List.filter_map, List.filter_congr h]
  rfl

end Entries

namespace Bag

theorem ext {a b : Bag} (h : a.entries = b.entries) : a = b := by
  cases a
  cases b
  cases h
  rfl

theorem eq_of_sameName {bag : Bag} {e other : Entry} (he : e ∈ bag.entries)
    (hother : other ∈ bag.entries) (h : sameName e.1 other.1 = true) : e = other :=
  Entries.eq_of_sameName bag.nodup he hother h

/-- The entry whose folded name is `key`. -/
def under? (bag : Bag) (key : String) : Option Entry :=
  bag.entries.find? fun e => fold e.1 == key

theorem under?_eq_some_iff {bag : Bag} {key : String} {e : Entry} :
    bag.under? key = some e ↔ e ∈ bag.entries ∧ fold e.1 = key := by
  have hfound {other : Entry} (h : bag.under? key = some other) :
      other ∈ bag.entries ∧ fold other.1 = key := by
    rw [under?] at h
    exact ⟨List.mem_of_find?_eq_some h, by simpa using List.find?_some h⟩
  refine ⟨hfound, ?_⟩
  rintro ⟨he, hkey⟩
  cases hfind : bag.under? key with
  | none =>
    rw [under?, List.find?_eq_none] at hfind
    exact absurd (beq_iff_eq.mpr hkey) (hfind e he)
  | some other =>
    obtain ⟨hother, hsame⟩ := hfound hfind
    rw [eq_of_sameName hother he ((sameName_iff _ _).mpr (hsame.trans hkey.symm))]

theorem under?_of_mem {bag : Bag} {e : Entry} (he : e ∈ bag.entries) :
    bag.under? (fold e.1) = some e :=
  under?_eq_some_iff.mpr ⟨he, rfl⟩

theorem find?_eq_under? (bag : Bag) (name : String) : bag.find? name = bag.under? (fold name) := by
  have htest : (fun e : Entry => sameName e.1 name) = fun e => fold e.1 == fold name := by
    funext e
    exact sameName_eq_beq e.1 name
  rw [find?, under?, htest]

theorem find?_of_mem {bag : Bag} {e : Entry} (he : e ∈ bag.entries) {name : String}
    (hname : sameName e.1 name = true) : bag.find? name = some e := by
  rw [find?_eq_under?, under?_eq_some_iff]
  exact ⟨he, (sameName_iff e.1 name).mp hname⟩

theorem get?_eq_some_iff {bag : Bag} {name : String} {value : PropertyValue} :
    bag.get? name = some value ↔
      ∃ e ∈ bag.entries, sameName e.1 name = true ∧ e.2 = value := by
  rw [get?, Option.map_eq_some_iff, find?_eq_under?]
  simp only [under?_eq_some_iff, sameName_iff, and_assoc]

theorem find?_congr (bag : Bag) {a b : String} (h : sameName a b = true) :
    bag.find? a = bag.find? b := by
  rw [find?_eq_under?, find?_eq_under?, (sameName_iff a b).mp h]

theorem get?_congr (bag : Bag) {a b : String} (h : sameName a b = true) :
    bag.get? a = bag.get? b := by
  rw [get?, get?, bag.find?_congr h]

theorem get?_of_mem {bag : Bag} {name : String} {value : PropertyValue}
    (h : (name, value) ∈ bag.entries) : bag.get? name = some value :=
  get?_eq_some_iff.mpr ⟨(name, value), h, sameName_refl name, rfl⟩

theorem contains_congr (bag : Bag) {a b : String} (h : sameName a b = true) :
    bag.contains a = bag.contains b := by
  rw [Bool.eq_iff_iff, contains_iff, contains_iff, (sameName_iff a b).mp h]

theorem contains_insert (bag : Bag) (name : String) (value : PropertyValue) (other : String) :
    (bag.insert name value).contains other = (bag.contains other || sameName name other) := by
  have hkeys : Entries.keys (bag.insert name value).entries =
      if fold name ∈ Entries.keys bag.entries then Entries.keys bag.entries
      else Entries.keys bag.entries ++ [fold name] :=
    Entries.keys_insert name value bag.entries
  rw [Bool.eq_iff_iff, Bool.or_eq_true, contains_iff, contains_iff, sameName_iff, hkeys]
  by_cases h : fold name ∈ Entries.keys bag.entries
  · rw [if_pos h]
    exact ⟨.inl, fun hor => hor.elim id fun heq => heq ▸ h⟩
  · rw [if_neg h, List.mem_append, List.mem_singleton, eq_comm (a := fold other)]

theorem mem_insert {bag : Bag} {name : String} {value : PropertyValue} {e : Entry} :
    e ∈ (bag.insert name value).entries ↔
      e = (name, value) ∨ e ∈ bag.entries ∧ sameName e.1 name = false :=
  Entries.mem_insert_iff bag.nodup

theorem mem_erase {bag : Bag} {name : String} {e : Entry} :
    e ∈ (bag.erase name).entries ↔ e ∈ bag.entries ∧ sameName e.1 name = false :=
  Entries.mem_erase_iff bag.nodup

section

variable {bag : Bag} {done back : List Entry} {e : Entry} {name : String}

theorem sameName_of_mem_ahead (hentries : bag.entries = done ++ e :: back)
    (hname : sameName e.1 name = true) : ∀ other ∈ done, sameName other.1 name = false := by
  intro other hother
  rw [sameName_eq_beq, ← (sameName_iff e.1 name).mp hname, ← sameName_eq_beq]
  exact Entries.sameName_of_mem_ahead (hentries ▸ bag.nodup) other hother

/-- A value under a name that an entry has takes the place of this entry. -/
theorem entries_insert_at (hentries : bag.entries = done ++ e :: back)
    (hname : sameName e.1 name = true) (value : PropertyValue) :
    (bag.insert name value).entries = done ++ (name, value) :: back := by
  have hdone := sameName_of_mem_ahead hentries hname
  change Entries.insert name value bag.entries = _
  rw [hentries, Entries.insert_append hdone, Entries.insert_cons, if_pos hname]

theorem entries_modify_at (hentries : bag.entries = done ++ e :: back)
    (hname : sameName e.1 name = true) (change : PropertyValue → PropertyValue) :
    (bag.modify name change).entries = done ++ (e.1, change e.2) :: back := by
  have hdone := sameName_of_mem_ahead hentries hname
  change Entries.modify name change bag.entries = _
  rw [hentries, Entries.modify_append hdone, Entries.modify, if_pos hname]

theorem entries_erase_at (hentries : bag.entries = done ++ e :: back)
    (hname : sameName e.1 name = true) : (bag.erase name).entries = done ++ back := by
  have hdone := sameName_of_mem_ahead hentries hname
  change Entries.erase name bag.entries = _
  rw [hentries, Entries.erase_append hdone, Entries.erase_cons, if_pos hname]

end

/-- A value replaces that of the entry of its name, in its place. -/
theorem entries_insert_of_split {bag : Bag} {done back : List Entry} {e : Entry}
    (hentries : bag.entries = done ++ e :: back) (value : PropertyValue) :
    (bag.insert e.1 value).entries = done ++ (e.1, value) :: back :=
  entries_insert_at hentries (sameName_refl e.1) value

theorem entries_erase_of_split {bag : Bag} {done back : List Entry} {e : Entry}
    (hentries : bag.entries = done ++ e :: back) :
    (bag.erase e.1).entries = done ++ back :=
  entries_erase_at hentries (sameName_refl e.1)

theorem entries_modify (bag : Bag) (name : String) (change : PropertyValue → PropertyValue) :
    (bag.modify name change).entries =
      bag.entries.map fun e => if sameName e.1 name then (e.1, change e.2) else e :=
  Entries.modify_eq_map name change bag.nodup

theorem entries_erase (bag : Bag) (name : String) :
    (bag.erase name).entries = bag.entries.filter fun e => !sameName e.1 name :=
  Entries.erase_eq_filter name bag.nodup

theorem keys_erase (bag : Bag) (name : String) :
    Entries.keys (bag.erase name).entries =
      (Entries.keys bag.entries).filter (· != fold name) := by
  rw [entries_erase]
  apply Entries.keys_filter
  intro e _
  rw [sameName_eq_beq]
  rfl

theorem contains_erase (bag : Bag) (name other : String) :
    (bag.erase name).contains other = (bag.contains other && !sameName name other) := by
  rw [Bool.eq_iff_iff, contains_iff, keys_erase, List.mem_filter, bne_iff_ne,
    Bool.and_eq_true, contains_iff, Bool.not_eq_true', ← Bool.not_eq_true, sameName_iff,
    ne_comm]

theorem sameName_of_get?_eq_none {bag : Bag} {name : String} (h : bag.get? name = none)
    {e : Entry} (he : e ∈ bag.entries) : sameName e.1 name = false := by
  rw [get?, Option.map_eq_none_iff, find?, List.find?_eq_none] at h
  exact eq_false_of_ne_true (h e he)

end Bag

end EventGate
