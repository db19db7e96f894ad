import EventGate.Proofs.Bags
import EventGate.Proofs.KeyedLists

/-! # Bags and their histories

A bag against a map with folded names as its keys, which knows what stands under each key and in
which order the keys came. Calls have the same answers on both, and after any calls the bag lists
what the map holds, in the order of its keys.
-/

namespace EventGate

open Text

/-! ## Maps that keep the order of their keys -/

/-- What stands under each key, and the keys in the order in which they came. -/
@[ext]
structure OrderedMap where
  order : List String
  found? : String → Option Entry

namespace OrderedMap

def empty : OrderedMap where
  order := []
  found? _ := none

/-- An old key keeps its place, and a new one comes behind all others. -/
def put (map : OrderedMap) (key : String) (e : Entry) : OrderedMap where
  order := if key ∈ map.order then map.order else map.order ++ [key]
  found? other := if other = key then some e else map.found? other

def erase (map : OrderedMap) (key : String) : OrderedMap where
  order := map.order.filter (· != key)
  found? other := if other = key then none else map.found? other

def modify (map : OrderedMap) (key : String) (change : Entry → Entry) : OrderedMap where
  order := map.order
  found? other := if other = key then (map.found? key).map change else map.found? other

def retain (map : OrderedMap) (keep : Entry → Bool) : OrderedMap where
  order := map.order.filter fun key => (map.found? key).any keep
  found? key := (map.found? key).filter keep

def modifyAll (map : OrderedMap) (change : Entry → Entry) : OrderedMap where
  order := map.order
  found? key := (map.found? key).map change

def toList (map : OrderedMap) : List Entry :=
  map.order.filterMap map.found?

end OrderedMap

/-! ## Calls -/

namespace Bag

/-- Gives each entry a value of its own, by its name and the value it has. -/
def assign (bag : Bag) (value : Entry → PropertyValue) : Bag :=
  ⟨bag.entries.map fun e => (e.1, value e), by
    rw [Entries.keys_map (fun e => (e.1, value e)) fun _ => rfl]
    exact bag.nodup⟩

theorem mapValues_eq_assign (bag : Bag) (change : PropertyValue → PropertyValue) :
    bag.mapValues change = bag.assign fun e => change e.2 := rfl

/-- A call on a bag. The last two go through all entries. -/
inductive Call where
  | get (name : String)
  | contains (name : String)
  | insert (name : String) (value : PropertyValue)
  | erase (name : String)
  | modify (name : String) (change : PropertyValue → PropertyValue)
  | retain (keep : Entry → Bool)
  | assign (value : Entry → PropertyValue)

/-- What a call hands out: the value or the entry of its name as it was before, or the entries that
it went through. -/
inductive Answer where
  | value (value? : Option PropertyValue)
  | present (flag : Bool)
  | entry (found? : Option Entry)
  | visited (entries : List Entry)

def serve (bag : Bag) : Call → Answer × Bag
  | .get name => (.value (bag.get? name), bag)
  | .contains name => (.present (bag.contains name), bag)
  | .insert name value =>
    let exchanged := bag.exchange name value
    (.value exchanged.1, exchanged.2)
  | .erase name =>
    let removed := bag.remove name
    (.entry removed.1, removed.2)
  | .modify name change => (.value (bag.get? name), bag.modify name change)
  | .retain keep => (.visited bag.entries, bag.retain keep)
  | .assign value => (.visited bag.entries, bag.assign value)

end Bag

/-- The same calls on the map of folded names. -/
def OrderedMap.serve (map : OrderedMap) : Bag.Call → Bag.Answer × OrderedMap
  | .get name => (.value ((map.found? (fold name)).map Prod.snd), map)
  | .contains name => (.present (map.found? (fold name)).isSome, map)
  | .insert name value =>
    (.value ((map.found? (fold name)).map Prod.snd), map.put (fold name) (name, value))
  | .erase name => (.entry (map.found? (fold name)), map.erase (fold name))
  | .modify name change =>
    (.value ((map.found? (fold name)).map Prod.snd),
      map.modify (fold name) fun e => (e.1, change e.2))
  | .retain keep => (.visited map.toList, map.retain keep)
  | .assign value => (.visited map.toList, map.modifyAll fun e => (e.1, value e))

/-- The answers to calls one after another, and what they leave. -/
def Bag.transcript {σ : Type} (serve : σ → Bag.Call → Bag.Answer × σ) (state : σ) :
    List Bag.Call → List Bag.Answer × σ
  | [] => ([], state)
  | call :: rest =>
    let served := serve state call
    let others := transcript serve served.2 rest
    (served.1 :: others.1, others.2)

/-! ## A bag as a map -/

namespace Bag

def view (bag : Bag) : OrderedMap where
  order := Entries.keys bag.entries
  found? := bag.under?

theorem toList_view (bag : Bag) : bag.view.toList = bag.entries := by
  -- For any part of the entries, as the rest of a bag is looked up in the whole bag.
  have hself : ∀ entries : List Entry, entries ⊆ bag.entries →
      (Entries.keys entries).filterMap bag.under? = entries := by
    intro entries
    induction entries with
    | nil => exact fun _ => rfl
    | cons e rest ih =>
      intro hsub
      obtain ⟨he, hrest⟩ := List.cons_subset.mp hsub
      rw [Entries.keys_cons, List.filterMap_cons_some (under?_of_mem he), ih hrest]
  exact hself bag.entries (List.Subset.refl _)

/-! ## One call -/

theorem view_insert (bag : Bag) (name : String) (value : PropertyValue) :
    (bag.insert name value).view = bag.view.put (fold name) (name, value) := by
  refine OrderedMap.ext (Entries.keys_insert name value bag.entries) (funext fun key => ?_)
  ext e
  change (bag.insert name value).under? key = some e ↔
    (if key = fold name then some (name, value) else bag.under? key) = some e
  rw [under?_eq_some_iff, mem_insert, ← Bool.not_eq_true, sameName_iff]
  by_cases hkey : key = fold name
  · subst hkey
    rw [if_pos rfl, Option.some_inj]
    constructor
    · rintro ⟨rfl | ⟨-, hne⟩, hname⟩
      · rfl
      · exact absurd hname hne
    · rintro rfl
      exact ⟨.inl rfl, rfl⟩
  · rw [if_neg hkey, under?_eq_some_iff]
    constructor
    · rintro ⟨rfl | ⟨he, -⟩, hname⟩
      · exact absurd hname.symm hkey
      · exact ⟨he, hname⟩
    · rintro ⟨he, rfl⟩
      exact ⟨.inr ⟨he, hkey⟩, rfl⟩

theorem view_erase (bag : Bag) (name : String) :
    (bag.erase name).view = bag.view.erase (fold name) := by
  refine OrderedMap.ext (bag.keys_erase name) (funext fun key => ?_)
  ext e
  change (bag.erase name).under? key = some e ↔
    (if key = fold name then none else bag.under? key) = some e
  rw [under?_eq_some_iff, mem_erase, ← Bool.not_eq_true, sameName_iff]
  by_cases hkey : key = fold name
  · rw [if_pos hkey]
    refine iff_of_false ?_ (by simp)
    rintro ⟨⟨-, hne⟩, hname⟩
    exact hne (hname.trans hkey)
  · rw [if_neg hkey, under?_eq_some_iff]
    constructor
    · rintro ⟨⟨he, -⟩, hname⟩
      exact ⟨he, hname⟩
    · rintro ⟨he, rfl⟩
      exact ⟨⟨he, hkey⟩, rfl⟩

theorem view_retain (bag : Bag) (keep : Entry → Bool) :
    (bag.retain keep).view = bag.view.retain keep := by
  have horder : Entries.keys (bag.entries.filter keep) =
      (Entries.keys bag.entries).filter fun key => (bag.under? key).any keep := by
    apply Entries.keys_filter
    intro e he
    rw [under?_of_mem he, Option.any_some]
  refine OrderedMap.ext horder (funext fun key => ?_)
  ext e
  change (bag.retain keep).under? key = some e ↔ (bag.under? key).filter keep = some e
  rw [under?_eq_some_iff, Option.filter_eq_some_iff, under?_eq_some_iff, and_right_comm]
  exact and_congr_left fun _ => List.mem_filter

theorem under?_of_map {bag changed : Bag} (change : Entry → Entry)
    (hname : ∀ e, (change e).1 = e.1) (hentries : changed.entries = bag.entries.map change)
    (key : String) : changed.under? key = (bag.under? key).map change := by
  have htest : ((fun e : Entry => fold e.1 == key) ∘ change) = fun e => fold e.1 == key := by
    funext e
    rw [Function.comp_apply, hname]
  rw [under?, hentries, List.find?_map, htest]
  rfl

theorem view_assign (bag : Bag) (value : Entry → PropertyValue) :
    (bag.assign value).view = bag.view.modifyAll fun e => (e.1, value e) := by
  let change (e : Entry) : Entry := (e.1, value e)
  have hname (e : Entry) : (change e).1 = e.1 := rfl
  refine OrderedMap.ext (Entries.keys_map change hname bag.entries) (funext fun key => ?_)
  exact under?_of_map change hname rfl key

theorem view_modify (bag : Bag) (name : String) (change : PropertyValue → PropertyValue) :
    (bag.modify name change).view =
      bag.view.modify (fold name) fun e => (e.1, change e.2) := by
  refine OrderedMap.ext (Entries.keys_modify name change bag.entries) (funext fun key => ?_)
  change (bag.modify name change).under? key =
    if key = fold name then (bag.under? (fold name)).map _ else bag.under? key
  rw [under?_of_map _ (fun e => by split <;> rfl) (bag.entries_modify name change)]
  cases hfound : bag.under? key with
  | none =>
    split
    · next hkey => rw [← hkey, hfound]; rfl
    · rfl
  | some e =>
    obtain ⟨-, rfl⟩ := under?_eq_some_iff.mp hfound
    simp only [Option.map_some, sameName_iff]
    split
    · next hkey => rw [← hkey, hfound]; rfl
    · rfl

/-- A call does to the map of a bag what it does to the bag, and hands out the same. -/
theorem serve_view (bag : Bag) (call : Call) :
    bag.view.serve call = ((bag.serve call).1, (bag.serve call).2.view) := by
  have hfind (name : String) : bag.view.found? (fold name) = bag.find? name :=
    (bag.find?_eq_under? name).symm
  cases call with
  | get name => rw [OrderedMap.serve, hfind]; rfl
  | contains name => rw [OrderedMap.serve, hfind]; rfl
  | insert name value =>
    rw [OrderedMap.serve, hfind, ← view_insert, serve, exchange_fst]
    rfl
  | erase name =>
    rw [OrderedMap.serve, hfind, ← view_erase, serve, remove_fst]
    rfl
  | modify name change => rw [OrderedMap.serve, hfind, ← view_modify]; rfl
  | retain keep => rw [OrderedMap.serve, toList_view, ← view_retain]; rfl
  | assign value => rw [OrderedMap.serve, toList_view, ← view_assign]; rfl

/-! ## Runs -/

theorem transcript_view (bag : Bag) (calls : List Call) :
    transcript OrderedMap.serve bag.view calls =
      ((transcript serve bag calls).1, (transcript serve bag calls).2.view) := by
  induction calls generalizing bag with
  | nil => rfl
  | cons call rest ih =>
    simp only [transcript]
    rw [serve_view, ih]

end Bag

/-! ## Places -/

namespace Entries

/-- Entries with different keys are told apart by them, so a test of keys can keep any part. -/
theorem filter_of_sublist {kept entries : List Entry} (hsub : kept.Sublist entries)
    (hnodup : (keys entries).Nodup) :
    entries.filter (fun e => decide (fold e.1 ∈ keys kept)) = kept := by
  induction hsub with
  | slnil => rfl
  | @cons kept rest e hsub ih =>
    rw [keys_cons, List.nodup_cons] at hnodup
    obtain ⟨hnew, hnodup⟩ := hnodup
    have hnot : fold e.1 ∉ keys kept := fun hin =>
      hnew ((keys_sublist hsub).subset hin)
    rw [List.filter_cons_of_neg (by simpa using hnot), ih hnodup]
  | @cons_cons kept rest e hsub ih =>
    rw [keys_cons, List.nodup_cons] at hnodup
    obtain ⟨hnew, hnodup⟩ := hnodup
    have hrest : ∀ other ∈ rest, decide (fold other.1 ∈ keys (e :: kept)) =
        decide (fold other.1 ∈ keys kept) := by
      intro other hother
      have hkey : fold other.1 ∈ keys rest := List.mem_map_of_mem hother
      have hne : fold other.1 ≠ fold e.1 := fun heq => hnew (heq ▸ hkey)
      simp [hne]
    rw [List.filter_cons_of_pos (by simp), List.filter_congr hrest, ih hnodup]

end Entries

namespace Bag

def handle (bag : Bag) (call : Call) : Answer × List Entry :=
  ((bag.serve call).1, (bag.serve call).2.entries)

/-- A call by a name changes the entry of that name, in its place, and no other one. -/
theorem handle_of_split {bag : Bag} {front back : List Entry} {e : Entry} {name : String}
    (hsplit : bag.entries = front ++ e :: back) (hname : sameName e.1 name = true) :
    (∀ value, bag.handle (.insert name value) =
      (.value (some e.2), front ++ (name, value) :: back)) ∧
    (∀ change, bag.handle (.modify name change) =
      (.value (some e.2), front ++ (e.1, change e.2) :: back)) ∧
    bag.handle (.erase name) = (.entry (some e), front ++ back) := by
  have hfind : bag.find? name = some e := find?_of_mem (by simp [hsplit]) hname
  have hget : bag.get? name = some e.2 := by rw [get?, hfind, Option.map_some]
  refine ⟨fun value => ?_, fun change => ?_, ?_⟩
  · have hprevious := (bag.exchange_fst name value).trans hget
    exact Prod.ext (congrArg Answer.value hprevious) (entries_insert_at hsplit hname value)
  · exact Prod.ext (congrArg Answer.value hget) (entries_modify_at hsplit hname change)
  · have hremoved := (bag.remove_fst name).trans hfind
    exact Prod.ext (congrArg Answer.entry hremoved) (entries_erase_at hsplit hname)

/-- Without an entry of the name a value goes to the end, and there is nothing else to do. -/
theorem handle_of_new {bag : Bag} {name : String} (hnew : bag.contains name = false) :
    (∀ value, bag.handle (.insert name value) = (.value none, bag.entries ++ [(name, value)])) ∧
    (∀ change, bag.handle (.modify name change) = (.value none, bag.entries)) ∧
    bag.handle (.erase name) = (.entry none, bag.entries) := by
  have hfind : bag.find? name = none := by simpa [contains] using hnew
  have hget : bag.get? name = none := by rw [get?, hfind, Option.map_none]
  have hothers : ∀ e ∈ bag.entries, sameName e.1 name = false :=
    fun e he => sameName_of_get?_eq_none hget he
  refine ⟨fun value => ?_, fun change => ?_, ?_⟩
  · have hinsert : Entries.insert name value (bag.entries ++ []) =
        bag.entries ++ [(name, value)] :=
      Entries.insert_append hothers value []
    rw [List.append_nil] at hinsert
    have hprevious := (bag.exchange_fst name value).trans hget
    exact Prod.ext (congrArg Answer.value hprevious) hinsert
  · have hmodify : Entries.modify name change (bag.entries ++ []) = bag.entries ++ [] :=
      Entries.modify_append hothers []
    rw [List.append_nil] at hmodify
    exact Prod.ext (congrArg Answer.value hget) hmodify
  · have herase : Entries.erase name (bag.entries ++ []) = bag.entries ++ [] :=
      Entries.erase_append hothers []
    rw [List.append_nil] at herase
    have hremoved := (bag.remove_fst name).trans hfind
    exact Prod.ext (congrArg Answer.entry hremoved) herase

/-- Retaining keeps the order of what it keeps, and can keep any part. So a test with a memory of
the entries it has seen keeps nothing that some test without memory does not keep. -/
theorem exists_retain_iff {bag : Bag} {kept : List Entry} :
    (∃ keep, (bag.retain keep).entries = kept) ↔ kept.Sublist bag.entries := by
  constructor
  · rintro ⟨keep, rfl⟩
    exact List.filter_sublist
  · intro hsub
    exact ⟨_, Entries.filter_of_sublist hsub bag.nodup⟩

theorem pairwise_fold_ne (bag : Bag) :
    bag.entries.Pairwise fun a b => fold a.1 ≠ fold b.1 :=
  List.pairwise_map.mp bag.nodup

theorem nodup_names (bag : Bag) : bag.names.Nodup :=
  List.pairwise_map.mpr (bag.pairwise_fold_ne.imp fun hne heq => hne (congrArg fold heq))

/-- Assigning to all entries keeps their names, and can give them any values. -/
theorem exists_assign_iff {bag : Bag} {assigned : List Entry} :
    (∃ value, (bag.assign value).entries = assigned) ↔ assigned.map Prod.fst = bag.names := by
  constructor
  · rintro ⟨value, rfl⟩
    simp [assign, names]
  · intro hnames
    have hnodup : (assigned.map Prod.fst).Nodup := hnames ▸ bag.nodup_names
    let value (name : String) : PropertyValue := (assigned.lookup name).getD (.flag false)
    have hvalue : ∀ e ∈ assigned, (e.1, value e.1) = e := by
      intro e he
      have hlookup : assigned.lookup e.1 = some e.2 := (lookup_eq_some_iff_mem hnodup).mpr he
      simp only [value, hlookup, Option.getD_some]
    refine ⟨fun e => value e.1, ?_⟩
    calc bag.entries.map (fun e => (e.1, value e.1))
      _ = bag.names.map fun name => (name, value name) := by rw [names, List.map_map]; rfl
      _ = assigned.map fun e => (e.1, value e.1) := by rw [← hnames, List.map_map]; rfl
      _ = assigned := by rw [List.map_congr_left hvalue, List.map_id']

/-- A bag is a map of folded names that keeps the order of its keys. After any calls from the
empty bag all answers are those of the map, and the bag lists what the map holds. No two names are
the same up to case, and the spelling of a name does not matter to a lookup. A value under an old
name takes the place of the entry, one under a new name goes to the end, and the other entries stay
in their order. -/
theorem refines_ordered_map (calls : List Call) :
    let run := transcript serve empty calls
    let reference := transcript OrderedMap.serve OrderedMap.empty calls
    let bag := run.2
    (run.1 = reference.1 ∧ bag.entries = reference.2.toList ∧
      Entries.keys bag.entries = reference.2.order ∧
      ∀ name, bag.find? name = reference.2.found? (fold name)) ∧
    bag.entries.Pairwise (fun a b => sameName a.1 b.1 = false) ∧
    (∀ a b, sameName a b = true →
      bag.get? a = bag.get? b ∧ bag.contains a = bag.contains b ∧ bag.find? a = bag.find? b) ∧
    (∀ front e back name, bag.entries = front ++ e :: back → sameName e.1 name = true →
      (∀ value, bag.handle (.insert name value) =
        (.value (some e.2), front ++ (name, value) :: back)) ∧
      (∀ change, bag.handle (.modify name change) =
        (.value (some e.2), front ++ (e.1, change e.2) :: back)) ∧
      bag.handle (.erase name) = (.entry (some e), front ++ back)) ∧
    (∀ name, bag.contains name = false →
      (∀ value, bag.handle (.insert name value) =
        (.value none, bag.entries ++ [(name, value)])) ∧
      (∀ change, bag.handle (.modify name change) = (.value none, bag.entries)) ∧
      bag.handle (.erase name) = (.entry none, bag.entries)) ∧
    (∀ kept, (∃ keep, (bag.retain keep).entries = kept) ↔ kept.Sublist bag.entries) ∧
    (∀ assigned, (∃ value, (bag.assign value).entries = assigned) ↔
      assigned.map Prod.fst = bag.names) := by
  intro run reference bag
  have hrun : reference = (run.1, bag.view) := transcript_view empty calls
  have hview : reference.2 = bag.view := congrArg Prod.snd hrun
  refine ⟨⟨?_, ?_, ?_, fun name => ?_⟩, ?_, fun a b hsame => ⟨?_, ?_, ?_⟩,
    fun _ _ _ _ => handle_of_split, fun _ => handle_of_new, fun _ => exists_retain_iff,
    fun _ => exists_assign_iff⟩
  · rw [hrun]
  · rw [hview, toList_view]
  · rw [hview, view]
  · rw [hview, find?_eq_under?, view]
  · refine bag.pairwise_fold_ne.imp fun hne => ?_
    rwa [← Bool.not_eq_true, sameName_iff]
  · exact bag.get?_congr hsame
  · exact bag.contains_congr hsame
  · exact bag.find?_congr hsame

end Bag

namespace Sample

/-- The first name is spelled with the sign of the kelvin, whose small form is the letter k. -/
def kelvinCalls : List Bag.Call :=
  [.insert "\u212Aey" (.text "a"), .insert "b" (.flag true)]

end Sample

/-- The value under the name with the sign gives way to one under the name in ASCII. -/
theorem ascii_key_takes_the_place_of_kelvin :
    let bag := (Bag.transcript Bag.serve Bag.empty Sample.kelvinCalls).2
    bag.entries = [] ++ ("\u212Aey", .text "a") :: [("b", .flag true)] ∧
      sameName "\u212Aey" "KEY" = true ∧
      bag.handle (.insert "KEY" (.text "c")) =
        (.value (some (.text "a")), [("KEY", .text "c"), ("b", .flag true)]) := by
  intro bag
  obtain ⟨-, -, -, hplace, -, -, -⟩ := Bag.refines_ordered_map Sample.kelvinCalls
  have hentries : bag.entries = [] ++ ("\u212Aey", .text "a") :: [("b", .flag true)] := by rfl
  have hname : sameName "\u212Aey" "KEY" = true := by decide +kernel
  exact ⟨hentries, hname, (hplace _ _ _ _ hentries hname).1 (.text "c")⟩

end EventGate
