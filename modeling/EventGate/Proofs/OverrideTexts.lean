import Mathlib.Data.List.Forall2
import Mathlib.Data.List.Induction
import Mathlib.Data.List.Nodup
import Mathlib.Data.List.TakeWhile
import EventGate.Config
import EventGate.Proofs.KeyedLists

/-! # Texts of switches

A text of switches is read entry by entry. The entries of two texts around a comma are those of the
one and then those of the other, so the switches of the second text stand over those of the first.
A text that lists the switches of a map gives the map back, in whatever order it lists them.
-/

namespace EventGate

open Text

/-! ## Cutting and stripping -/

namespace Text

theorem splitChars_append (mark : Char) (front back : List Char) :
    splitChars mark (front ++ mark :: back) = splitChars mark front ++ splitChars mark back := by
  induction front with
  | nil => simp [splitChars]
  | cons c rest ih =>
    rw [List.cons_append, splitChars, splitChars]
    by_cases hmark : c = mark
    · rw [if_pos hmark, if_pos hmark, ih, List.cons_append]
    · rw [if_neg hmark, if_neg hmark, ih]
      cases hparts : splitChars mark rest with
      | nil => exact absurd hparts (splitChars_ne_nil mark rest)
      | cons part parts => rfl

theorem splitChars_of_notMem {mark : Char} {chars : List Char} (h : mark ∉ chars) :
    splitChars mark chars = [chars] := by
  induction chars with
  | nil => rfl
  | cons c rest ih =>
    rw [List.mem_cons, not_or] at h
    rw [splitChars, if_neg (Ne.symm h.1), ih h.2]

theorem splitOnce?_eq_some_iff {mark : Char} {chars front back : List Char} :
    splitOnce? mark chars = some (front, back) ↔ chars = front ++ mark :: back ∧ mark ∉ front := by
  constructor
  · intro h
    have hsplit : chars.takeWhile (· != mark) ++ chars.dropWhile (· != mark) = chars :=
      List.takeWhile_append_dropWhile
    unfold splitOnce? at h
    split at h
    · cases h
    · next first after hrest =>
      obtain ⟨rfl, rfl⟩ := Prod.mk.inj (Option.some.inj h)
      have hfirst : first = mark := by
        simpa [hrest] using List.head?_dropWhile_not (· != mark) chars
      rw [hrest, hfirst] at hsplit
      refine ⟨hsplit.symm, fun hmem => ?_⟩
      simpa using List.mem_takeWhile_imp hmem
  · intro ⟨hchars, hfront⟩
    have hother : ∀ c ∈ front, (c != mark) = true := by
      intro c hc
      simpa using ne_of_mem_of_not_mem hc hfront
    rw [hchars, splitOnce?, List.dropWhile_append_of_pos hother,
      List.takeWhile_append_of_pos hother]
    simp

/-- What is dropped at the ends may as well stand around a text. -/
theorem stripEnds_append {drop : Char → Bool} {left right : List Char}
    (hleft : ∀ c ∈ left, drop c = true) (hright : ∀ c ∈ right, drop c = true)
    (chars : List Char) : stripEnds drop (left ++ chars ++ right) = stripEnds drop chars := by
  have hback : ∀ c ∈ right.reverse, drop c = true := fun c hc => hright c (List.mem_reverse.mp hc)
  rw [stripEnds, stripEnds, List.append_assoc, List.dropWhile_append_of_pos hleft,
    List.dropWhile_append]
  split
  · next hall =>
    rw [List.isEmpty_iff.mp hall, List.dropWhile_eq_nil_iff.mpr hright]
  · rw [List.reverse_append, List.dropWhile_append_of_pos hback]

theorem trim_append {left right : String} (hleft : ∀ c ∈ left.toList, isBlank c = true)
    (hright : ∀ c ∈ right.toList, isBlank c = true) (text : String) :
    trim (left ++ text ++ right) = trim text := by
  rw [trim, String.toList_append, String.toList_append, stripEnds_append hleft hright, trim]

end Text

namespace Overrides

/-! ## Entries -/

def words (on : Bool) : List String :=
  if on then ["1", "true"] else ["0", "false"]

/-- An entry gives a switch if its id, which is not empty, stands before the first equals sign and
its word behind it. Blanks at the ends of both do not matter. -/
def Gives (entry : String) (o : String × Bool) : Prop :=
  ∃ left right : String, entry = left ++ "=" ++ right ∧ '=' ∉ left.toList ∧
    trim left = o.1 ∧ o.1 ≠ "" ∧ trim right ∈ words o.2

theorem switchOf?_eq_some_iff {chars : List Char} {on : Bool} :
    switchOf? chars = some on ↔ String.ofList chars ∈ words on := by
  have hword : ∀ s : String, String.ofList chars = s ↔ chars = s.toList := by
    intro s
    rw [← String.toList_inj, String.toList_ofList]
  unfold switchOf?
  split
  · next hon => rcases hon with rfl | rfl <;> cases on <;> decide
  · split
    · next hoff => rcases hoff with rfl | rfl <;> cases on <;> decide
    · next hon hoff =>
      cases on with
      | true => simpa [words, hword] using hon
      | false => simpa [words, hword] using hoff

/-- An entry is read on both sides of its first equals sign. -/
theorem entry?_append {left right : String} (h : '=' ∉ left.toList) {o : String × Bool} :
    entry? (left ++ "=" ++ right).toList = some o ↔
      trim left = o.1 ∧ o.1 ≠ "" ∧ trim right ∈ words o.2 := by
  have hchars : (left ++ "=" ++ right).toList = left.toList ++ '=' :: right.toList := by simp
  unfold entry?
  rw [hchars, splitOnce?_eq_some_iff.mpr ⟨rfl, h⟩, trim, trim, ← switchOf?_eq_some_iff]
  show (if (stripEnds isBlank left.toList).isEmpty then none else _) = _ ↔ _
  split
  · next hid =>
    rw [List.isEmpty_iff.mp hid]
    constructor
    · intro h
      cases h
    · intro ⟨hempty, hne, _⟩
      exact absurd hempty.symm hne
  · next hid =>
    have hne : String.ofList (stripEnds isBlank left.toList) ≠ "" := by
      simpa [← String.toList_inj] using hid
    constructor
    · intro h
      obtain ⟨on, hon, hpair⟩ := Option.bind_eq_some_iff.mp h
      cases hpair
      exact ⟨rfl, hne, hon⟩
    · intro ⟨hsame, _, hon⟩
      rw [hon, hsame]
      rfl

theorem entry?_eq_some_iff {entry : String} {o : String × Bool} :
    entry? entry.toList = some o ↔ Gives entry o := by
  constructor
  · intro h
    cases hsplit : splitOnce? '=' entry.toList with
    | none => simp [hsplit, entry?] at h
    | some pair =>
      obtain ⟨left, right⟩ := pair
      obtain ⟨hchars, hleft⟩ := splitOnce?_eq_some_iff.mp hsplit
      have hentry : entry = String.ofList left ++ "=" ++ String.ofList right := by
        simp [← String.toList_inj, hchars]
      rw [← String.toList_ofList (l := left)] at hleft
      rw [hentry, entry?_append hleft] at h
      exact ⟨_, _, hentry, hleft, h⟩
  · intro ⟨left, right, hentry, hleft, hparts⟩
    rw [hentry]
    exact (entry?_append hleft).mpr hparts

def entries (text : String) : List (String × Bool) :=
  (splitChars ',' text.toList).filterMap entry?

theorem parse_eq (text : String) : parse text = ofEntries (entries text) :=
  rfl

theorem entries_append (s t : String) : entries (s ++ "," ++ t) = entries s ++ entries t := by
  have hchars : (s ++ "," ++ t).toList = s.toList ++ ',' :: t.toList := by simp
  rw [entries, hchars, splitChars_append, List.filterMap_append, entries, entries]

theorem entries_of_notMem {text : String} {parsed : Option (String × Bool)}
    (h : ',' ∉ text.toList) (hparsed : entry? text.toList = parsed) :
    entries text = parsed.toList := by
  rw [entries, splitChars_of_notMem h]
  cases parsed <;> simp [hparsed]

theorem entries_intercalate {parts : List String} (h : ∀ part ∈ parts, ',' ∉ part.toList) :
    entries (",".intercalate parts) = parts.filterMap fun part => entry? part.toList := by
  induction parts with
  | nil => rfl
  | cons part rest ih =>
    rw [List.forall_mem_cons] at h
    have hown : entries part = [part].filterMap fun part => entry? part.toList := by
      rw [entries_of_notMem h.1 rfl]
      cases hpart : entry? part.toList <;> simp [hpart]
    cases rest with
    | nil => rw [String.intercalate_singleton, hown]
    | cons next more =>
      rw [String.intercalate_cons_cons, entries_append, hown, ih h.2, ← List.filterMap_append]
      rfl

/-! ## The last entry counts -/

theorem ofEntries_append (first : List (String × Bool)) (entry : String × Bool) :
    ofEntries (first ++ [entry]) = (ofEntries first).set entry := by
  rw [ofEntries, List.foldl_append, ofEntries]
  rfl

theorem get?_set (overrides : Overrides) (entry : String × Bool) (id : String) :
    (overrides.set entry).get? id = if id = entry.1 then some entry.2 else overrides.get? id :=
  lookup_put overrides entry.1 entry.2 id

/-- Of the entries with an id the last one gives the switch. -/
theorem get?_ofEntries (entries : List (String × Bool)) (id : String) :
    (ofEntries entries).get? id = entries.reverse.lookup id := by
  induction entries using List.reverseRecOn with
  | nil => rfl
  | append_singleton first entry ih =>
    rw [ofEntries_append, get?_set, ih, List.reverse_concat, lookup_cons_eq_ite]

theorem get?_parse (text id : String) :
    (parse text).get? id = (entries text).reverse.lookup id :=
  get?_ofEntries (entries text) id

theorem nodup_ofEntries (entries : List (String × Bool)) :
    ((ofEntries entries).map Prod.fst).Nodup := by
  induction entries using List.reverseRecOn with
  | nil => exact List.nodup_nil
  | append_singleton first entry ih =>
    rw [ofEntries_append]
    exact nodup_keys_put ih entry.1 entry.2

theorem ofEntries_of_nodup {entries : List (String × Bool)}
    (h : (entries.map Prod.fst).Nodup) : ofEntries entries = entries := by
  induction entries using List.reverseRecOn with
  | nil => rfl
  | append_singleton first entry ih =>
    rw [List.map_append, List.nodup_append] at h
    have hothers : first.filter (fun o => o.1 != entry.1) = first := by
      apply List.filter_eq_self.mpr
      intro o ho
      simpa using h.2.2 o.1 (List.mem_map_of_mem ho) entry.1 (List.mem_singleton_self _)
    rw [ofEntries_append, ih h.1, set, hothers]

/-- The last of the parts of a text that gives a switch for an id decides. -/
theorem get?_parse_intercalate {parts : List String} (h : ∀ part ∈ parts, ',' ∉ part.toList)
    {id : String} {on : Bool} :
    (parse (",".intercalate parts)).get? id = some on ↔
      ∃ before entry after, parts = before ++ entry :: after ∧ Gives entry (id, on) ∧
        ∀ later ∈ after, ∀ o, Gives later o → o.1 ≠ id := by
  rw [get?_parse, entries_intercalate h, lookup_reverse_eq_some_iff]
  simp only [← entry?_eq_some_iff]
  constructor
  · intro ⟨front, back, hsplit, hothers⟩
    obtain ⟨left, right, rfl, -, hright⟩ := List.filterMap_eq_append_iff.mp hsplit
    obtain ⟨skipped, entry, after, rfl, -, hentry, rfl⟩ := List.filterMap_eq_cons_iff.mp hright
    refine ⟨left ++ skipped, entry, after, (List.append_assoc ..).symm, hentry, ?_⟩
    intro later hlater o ho
    exact hothers o (List.mem_filterMap.mpr ⟨later, hlater, ho⟩)
  · intro ⟨before, entry, after, hsplit, hentry, hothers⟩
    refine ⟨before.filterMap fun part => entry? part.toList,
      after.filterMap fun part => entry? part.toList, by simp [hsplit, hentry], fun e he => ?_⟩
    obtain ⟨later, hlater, hgives⟩ := List.mem_filterMap.mp he
    exact hothers later hlater e hgives

/-! ## Written switches -/

structure IsWritable (id : String) : Prop where
  nonempty : id ≠ ""
  trimmed : trim id = id
  comma : ',' ∉ id.toList
  equals : '=' ∉ id.toList

/-- A text that gives a switch, with any blanks around its id and around its digit. -/
def Writes (o : String × Bool) (text : String) : Prop :=
  ∃ a b c d : String, (∀ blanks ∈ [a, b, c, d], blanks.toList.all isBlank = true) ∧
    text = a ++ o.1 ++ b ++ "=" ++ (c ++ (if o.2 then "1" else "0") ++ d)

def Lists (text : String) (switches : Overrides) : Prop :=
  ∃ (order : Overrides) (texts : List String), order.Perm switches ∧
    List.Forall₂ Writes order texts ∧ text = ",".intercalate texts

section

variable {o : String × Bool} {text : String}

theorem Writes.notMem_comma (h : Writes o text) (hid : IsWritable o.1) : ',' ∉ text.toList := by
  obtain ⟨a, b, c, d, hblanks, rfl⟩ := h
  have hblank : ∀ blanks ∈ [a, b, c, d], ',' ∉ blanks.toList := by
    intro blanks hmem hcomma
    exact absurd (List.all_eq_true.mp (hblanks blanks hmem) ',' hcomma) (by decide)
  simp only [List.forall_mem_cons] at hblank
  cases o.2 <;> simp [hblank, hid.comma]

theorem Writes.gives (h : Writes o text) (hid : IsWritable o.1) : Gives text o := by
  obtain ⟨a, b, c, d, hblanks, rfl⟩ := h
  simp only [List.forall_mem_cons, List.all_eq_true] at hblanks
  obtain ⟨ha, hb, hc, hd, -⟩ := hblanks
  refine ⟨a ++ o.1 ++ b, c ++ (if o.2 then "1" else "0") ++ d, rfl, ?_, ?_, hid.nonempty, ?_⟩
  · have hblank : isBlank '=' = false := by decide
    simp only [String.toList_append, List.mem_append, not_or]
    exact ⟨⟨fun h => by simp [ha _ h] at hblank, hid.equals⟩, fun h => by simp [hb _ h] at hblank⟩
  · rw [trim_append ha hb, hid.trimmed]
  · rw [trim_append hc hd]
    cases o.2 <;> decide

end

section

variable {order : Overrides} {texts : List String} (h : List.Forall₂ Writes order texts)
  (hids : ∀ o ∈ order, IsWritable o.1)

include h hids

theorem notMem_comma_of_writes : ∀ text ∈ texts, ',' ∉ text.toList := by
  induction h with
  | nil => simp
  | cons hfirst _ ih =>
    rw [List.forall_mem_cons] at hids ⊢
    exact ⟨hfirst.notMem_comma hids.1, ih hids.2⟩

/-- The entries of a text that writes them one by one are the ones it writes. -/
theorem entries_of_writes : entries (",".intercalate texts) = order := by
  rw [entries_intercalate (notMem_comma_of_writes h hids)]
  induction h with
  | nil => rfl
  | cons hfirst _ ih =>
    rw [List.forall_mem_cons] at hids
    have hread := entry?_eq_some_iff.mpr (hfirst.gives hids.1)
    simp only [List.filterMap_cons, hread, ih hids.2]

end

/-- A text that lists the switches of a map gives the map back. -/
theorem perm_parse_of_lists {switches : Overrides} {text : String} (h : Lists text switches)
    (hnodup : (switches.map Prod.fst).Nodup) (hids : ∀ o ∈ switches, IsWritable o.1) :
    (parse text).Perm switches := by
  obtain ⟨order, texts, hperm, hwrites, rfl⟩ := h
  have hentries : entries (",".intercalate texts) = order :=
    entries_of_writes hwrites fun o ho => hids o (hperm.subset ho)
  have horder : (order.map Prod.fst).Nodup := (hperm.map Prod.fst).nodup_iff.mpr hnodup
  rw [parse_eq, hentries, ofEntries_of_nodup horder]
  exact hperm

/-! ## Composition -/

def IsMalformed (entry : String) : Prop :=
  ',' ∉ entry.toList ∧ ∀ o, ¬ Gives entry o

theorem IsMalformed.entries_eq {entry : String} (h : IsMalformed entry) : entries entry = [] := by
  have hnone : entry? entry.toList = none := by
    rw [Option.eq_none_iff_forall_ne_some]
    exact fun o ho => h.2 o (entry?_eq_some_iff.mp ho)
  exact entries_of_notMem h.1 hnone

/-- Texts of switches compose. Of the entries that give a switch for an id the last one decides.
So the switches of the second of two texts around a comma stand over those of the first, and an
entry that gives none changes nothing, wherever it stands. A text that lists the switches of a map
gives the map back. -/
theorem parse_composes (s t : String) :
    ((parse s).map Prod.fst).Nodup ∧
    (∀ id, (parse (s ++ "," ++ t)).get? id = ((parse t).get? id).or ((parse s).get? id)) ∧
    (∀ entry, IsMalformed entry →
      parse entry = [] ∧ parse (entry ++ "," ++ t) = parse t ∧ parse (s ++ "," ++ entry) = parse s ∧
        parse (s ++ "," ++ entry ++ "," ++ t) = parse (s ++ "," ++ t)) ∧
    (∀ parts : List String, (∀ part ∈ parts, ',' ∉ part.toList) → s = ",".intercalate parts →
      ∀ id on, (parse s).get? id = some on ↔
        ∃ before entry after, parts = before ++ entry :: after ∧ Gives entry (id, on) ∧
          ∀ later ∈ after, ∀ o, Gives later o → o.1 ≠ id) ∧
    ∀ switches : Overrides, (switches.map Prod.fst).Nodup → (∀ o ∈ switches, IsWritable o.1) →
      Lists s switches → (parse s).Perm switches ∧ ∀ id, (parse s).get? id = switches.get? id := by
  refine ⟨nodup_ofEntries _, fun id => ?_, fun entry hentry => ?_, ?_, ?_⟩
  · rw [get?_parse, get?_parse, get?_parse, entries_append, List.reverse_append, List.lookup_append]
  · simp [parse_eq, entries_append, hentry.entries_eq, ofEntries]
  · rintro parts hparts rfl id on
    exact get?_parse_intercalate hparts
  · intro switches hnodup hids hlists
    have hperm := perm_parse_of_lists hlists hnodup hids
    exact ⟨hperm, lookup_eq_of_perm hnodup hperm⟩

end Overrides

namespace Sample

def switches : Overrides := [("Audit", true), ("Ads", false)]

/-- The switches in another order, with blanks of several kinds. -/
def switchText : String := "\tAds = 0 ,\u3000Audit=1\n"

theorem lists_switchText : Overrides.Lists switchText switches := by
  refine ⟨[("Ads", false), ("Audit", true)], ["\tAds = 0 ", "\u3000Audit=1\n"], ?_, ?_, by decide⟩
  · exact .swap _ _ _
  · refine .cons ⟨"\t", " ", " ", " ", by decide +kernel, by decide⟩
      (.cons ⟨"\u3000", "", "", "\n", by decide +kernel, by decide⟩ .nil)

theorem isWritable_switches : ∀ o ∈ switches, Overrides.IsWritable o.1 := by
  simp only [switches, List.forall_mem_cons]
  refine ⟨?_, ?_, fun _ h => absurd h List.not_mem_nil⟩ <;> constructor <;> decide +kernel

end Sample

/-- The text gives its switches back, and a text behind it turns one of them off, with an entry
without an id in between. -/
theorem switch_texts_compose :
    (Overrides.parse Sample.switchText).Perm Sample.switches ∧
      Overrides.parse (Sample.switchText ++ "," ++ "=1" ++ "," ++ "Audit=false") =
        Overrides.parse (Sample.switchText ++ "," ++ "Audit=false") ∧
      (Overrides.parse (Sample.switchText ++ "," ++ "Audit=false")).get? "Audit" = some false := by
  obtain ⟨-, hoverlay, hmalformed, -, hlists⟩ :=
    Overrides.parse_composes Sample.switchText "Audit=false"
  have hempty : Overrides.IsMalformed "=1" := by
    refine ⟨by decide, fun o ho => ?_⟩
    have hread := Overrides.entry?_eq_some_iff.mpr ho
    have hnone : Overrides.entry? "=1".toList = none := by decide +kernel
    exact absurd (hnone.symm.trans hread) (Option.some_ne_none o).symm
  refine ⟨(hlists Sample.switches (by decide) Sample.isWritable_switches
    Sample.lists_switchText).1, (hmalformed "=1" hempty).2.2.2, ?_⟩
  rw [hoverlay]
  decide +kernel

end EventGate
