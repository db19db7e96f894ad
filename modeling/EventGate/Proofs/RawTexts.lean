import Mathlib.Data.List.Induction
import Mathlib.Data.List.Nodup
import EventGate.Proofs.Digests
import EventGate.Proofs.Fingerprint
import EventGate.Proofs.PersonalValues

/-! # Raw texts beside digests

Where the session collects private data, the hashing puts the raw text of a personal value that is
sent beside its digest, under a name that may be that of another property. Each value gets its own
digest as long as the raw texts stand clear of the other personal properties; the order of the
properties counts.
-/

namespace EventGate

open Text

/-! ## Names of raw texts -/

namespace Naming

/-- Names that can be given to a property have raw texts under different names. -/
theorem sameName_of_rawName {a b : String} (ha : isPropertyName a = true)
    (hb : isPropertyName b = true) (h : sameName (rawName a) (rawName b) = true) :
    sameName a b = true := by
  have hchars : ∀ {name : String}, isPropertyName name = true →
      ∀ c ∈ name.toList, (isNameChar c || c == '/') = true := by
    intro name hname
    rw [isPropertyName, Bool.and_eq_true, List.all_eq_true] at hname
    exact hname.2
  have hfold : ∀ {name : String}, isPropertyName name = true →
      foldChars (rawName name).toList = foldChars name.toList ++ ".nothashed".toList := by
    intro name hname
    have hraw : ∀ c ∈ (rawName name).toList, (isNameChar c || c == '/') = true := by
      rw [rawName, String.toList_append]
      intro c hc
      rcases List.mem_append.mp hc with hc | hc
      · exact hchars hname c hc
      · have hsuffix : rawSuffix.toList.all isNameChar = true := by decide
        rw [List.all_eq_true.mp hsuffix c hc]
        rfl
    rw [foldChars_of_name hraw, foldChars_of_name (hchars hname), rawName, String.toList_append,
      List.map_append]
    rfl
  rw [sameName_iff, ← String.toList_inj, toList_fold, toList_fold] at h ⊢
  rw [hfold ha, hfold hb] at h
  exact List.append_cancel_right h

end Naming

namespace Personal

/-! ## What is put beside digests -/

/-- The name and the raw text that are put beside the digest of a value, unless the property is held
back. -/
def raw? (event : Event) (name : String) (value : PropertyValue) : Option (String × String) :=
  if event.isExcluded name then none else value.text?.map fun s => (Naming.rawName name, s)

def personals (event : Event) : List Entry :=
  event.properties.entries.filter fun e => e.2.isPersonal

def companions (event : Event) : List (String × String) :=
  (personals event).filterMap fun e => raw? event e.1 e.2

/-- What the hashing of an event is to do: each personal value with a text gives way to its digest;
if it is sent, its raw text stands beside it, and if it is held back, none was added; and the other
properties stay. -/
structure HashesEach (hash : String → String) (event after : Event) : Prop where
  digest : ∀ e ∈ personals event, ∀ s, e.2.text? = some s →
    (e.1, .text (hash s)) ∈ after.properties.entries
  raw : ∀ c ∈ companions event, after.properties.get? c.1 = some (.text c.2)
  excluded : ∀ e ∈ personals event, event.isExcluded e.1 = true →
    after.properties.contains (Naming.rawName e.1) = true →
      event.properties.contains (Naming.rawName e.1) = true ∨
        ∃ c ∈ companions event, sameName (Naming.rawName e.1) c.1 = true
  others : ∀ e ∈ event.properties.entries, e.2.isPersonal = false →
    (∀ c ∈ companions event, sameName e.1 c.1 = false) → e ∈ after.properties.entries

variable {hash : String → String} {event now : Event} {e : Entry}

theorem mem_companions {c : String × String} :
    c ∈ companions event ↔ ∃ e ∈ personals event, raw? event e.1 e.2 = some c :=
  List.mem_filterMap

theorem raw?_eq_some_iff {name : String} {value : PropertyValue} {c : String × String} :
    raw? event name value = some c ↔
      event.isExcluded name = false ∧ value.text? = some c.2 ∧ c.1 = Naming.rawName name := by
  obtain ⟨raw, s⟩ := c
  unfold raw?
  cases event.isExcluded name with
  | true => simp
  | false => cases value.text? <;> simp [eq_comm, and_comm]

theorem sameName_of_raw? {name : String} {value : PropertyValue} {c : String × String}
    (h : raw? event name value = some c) : sameName name c.1 = false := by
  rw [(raw?_eq_some_iff.mp h).2.2]
  exact Naming.sameName_rawName name

/-- The properties after the turn of a name: its raw text, its digest, and what has another name. -/
theorem mem_hashOne_iff (hash : String → String) {name : String} {value : PropertyValue}
    (hget : now.properties.get? name = some value) (count : Nat) {x : Entry} :
    x ∈ (hashOne hash true (now, count) name).1.properties.entries ↔
      (∃ c, raw? now name value = some c ∧ x = (c.1, .text c.2)) ∨
        (∀ c, raw? now name value = some c → sameName x.1 c.1 = false) ∧
          ((∃ s, value.text? = some s ∧ x = (name, .text (hash s))) ∨
            x ∈ now.properties.entries ∧ sameName x.1 name = false) := by
  rcases hashOne_of_get? hash hget true count with ⟨htext, heq⟩ | ⟨s, htext, heq⟩
  · rw [heq, Bag.mem_erase]
    simp [raw?, htext]
  · rw [heq, replaced]
    cases hexcl : now.isExcluded name with
    | true => simp [raw?, htext, hexcl, Event.put, Bag.mem_insert]
    | false =>
      simp only [raw?, htext, hexcl, Event.put, Bool.not_false, Bool.and_true, if_true,
        Bag.mem_insert, Bool.false_eq_true, if_false, Option.map_some, Option.some.injEq,
        exists_eq_left', forall_eq']
      rw [and_comm (a := sameName x.1 _ = false)]

/-- A turn leaves a raw text in its place if it puts none there but an equal one. -/
theorem get?_hashOne {name : String} {value : PropertyValue}
    (hget : now.properties.get? name = some value) (count : Nat) {d : String × String}
    (hd : now.properties.get? d.1 = some (.text d.2)) (hne : sameName name d.1 = false)
    (hagree : ∀ c, raw? now name value = some c → sameName c.1 d.1 = true → c.2 = d.2) :
    (hashOne hash true (now, count) name).1.properties.get? d.1 = some (.text d.2) := by
  obtain ⟨x, hx, hxd, hvalue⟩ := Bag.get?_eq_some_iff.mp hd
  have hxname : sameName x.1 name = false := by
    rw [sameName_congr hxd, sameName_comm, hne]
  rw [Bag.get?_eq_some_iff]
  by_cases hput : ∃ c, raw? now name value = some c ∧ sameName x.1 c.1 = true
  · obtain ⟨c, hc, hxc⟩ := hput
    have hcd : sameName c.1 d.1 = true := by
      rw [← sameName_congr hxc, hxd]
    refine ⟨(c.1, .text c.2), (mem_hashOne_iff hash hget count).mpr (.inl ⟨c, hc, rfl⟩), hcd, ?_⟩
    rw [hagree c hc hcd]
  · have hclear : ∀ c, raw? now name value = some c → sameName x.1 c.1 = false := by
      intro c hc
      rw [← Bool.not_eq_true]
      exact fun hxc => hput ⟨c, hc, hxc⟩
    have hmem := (mem_hashOne_iff hash hget count).mpr (.inr ⟨hclear, .inr ⟨hx, hxname⟩⟩)
    exact ⟨x, hmem, hxd, hvalue⟩

theorem sameName_of_not_personal {x : Entry} (hx : x ∈ event.properties.entries)
    (hplain : x.2.isPersonal = false) (he : e ∈ personals event) : sameName x.1 e.1 = false := by
  rw [← Bool.not_eq_true]
  intro hsame
  rw [Bag.eq_of_sameName hx (List.mem_filter.mp he).1 hsame, (List.mem_filter.mp he).2] at hplain
  exact absurd hplain (by decide)

theorem nodup_personals (event : Event) : (personals event).Nodup := by
  have hentries : event.properties.entries.Nodup := List.Nodup.of_map _ event.properties.nodup
  exact hentries.filter _

theorem sameName_of_ne {f : Entry} (he : e ∈ personals event) (hf : f ∈ personals event)
    (hne : e ≠ f) : sameName e.1 f.1 = false := by
  rw [← Bool.not_eq_true]
  intro hsame
  exact hne (Bag.eq_of_sameName (List.mem_filter.mp he).1 (List.mem_filter.mp hf).1 hsame)

/-! ## Raw texts that keep clear -/

/-- Of two personal properties, the first of which has its turn earlier: the raw text of the first
does not come in the place of the second, and the raw text of the second comes in the place of the
first only if nothing was left there. -/
structure Clear (event : Event) (e f : Entry) : Prop where
  ahead : ∀ c, raw? event e.1 e.2 = some c → sameName f.1 c.1 = false
  behind : ∀ c, raw? event f.1 f.2 = some c → e.2.text?.isSome = true → sameName e.1 c.1 = false

/-- No raw text comes in the place of another personal property, unless that one is gone by then. -/
def RawTextsClear (event : Event) : Prop :=
  (personals event).Pairwise (Clear event)

def RawTextsAgree (event : Event) : Prop :=
  ∀ c ∈ companions event, ∀ d ∈ companions event, sameName c.1 d.1 = true → c.2 = d.2

def RawNamesDiffer (event : Event) : Prop :=
  ∀ e ∈ personals event, ∀ f ∈ personals event,
    sameName (Naming.rawName e.1) (Naming.rawName f.1) = true → sameName e.1 f.1 = true

theorem RawNamesDiffer.of_names
    (h : ∀ e ∈ event.properties.entries, Naming.isPropertyName e.1 = true) :
    RawNamesDiffer event := fun e he f hf hsame =>
  Naming.sameName_of_rawName (h e (List.mem_filter.mp he).1) (h f (List.mem_filter.mp hf).1) hsame

theorem RawNamesDiffer.agree (h : RawNamesDiffer event) : RawTextsAgree event := by
  intro c hc d hd hsame
  obtain ⟨e, he, hraw⟩ := mem_companions.mp hc
  obtain ⟨f, hf, hraw'⟩ := mem_companions.mp hd
  obtain ⟨-, htext, hname⟩ := raw?_eq_some_iff.mp hraw
  obtain ⟨-, htext', hname'⟩ := raw?_eq_some_iff.mp hraw'
  rw [hname, hname'] at hsame
  have heq : e = f := Bag.eq_of_sameName (List.mem_filter.mp he).1 (List.mem_filter.mp hf).1
    (h e he f hf hsame)
  rw [heq, htext'] at htext
  exact (Option.some.inj htext).symm

/-! ## Turn by turn -/

/-- Some of the personal properties of an event, whose raw texts keep clear of each other. -/
structure ClearTurns (event : Event) (turns : List Entry) : Prop where
  sublist : turns.Sublist (personals event)
  clear : turns.Pairwise (Clear event)

/-- An event part of the way through its hashing: what was done has the results, and what waits is
as it was. -/
structure Midway (hash : String → String) (event : Event) (done waiting : List Entry)
    (now : Event) : Prop where
  excluded : now.excluded = event.excluded
  waits : ∀ e ∈ waiting, e ∈ now.properties.entries
  digest : ∀ e ∈ done, ∀ s, e.2.text? = some s →
    (e.1, .text (hash s)) ∈ now.properties.entries
  raw : ∀ e ∈ done, ∀ c, raw? event e.1 e.2 = some c →
    now.properties.get? c.1 = some (.text c.2)
  names : ∀ x ∈ now.properties.entries,
    event.properties.contains x.1 = true ∨ ∃ c ∈ companions event, x.1 = c.1
  others : ∀ x ∈ event.properties.entries, x.2.isPersonal = false →
    (∀ c ∈ companions event, sameName x.1 c.1 = false) → x ∈ now.properties.entries

namespace ClearTurns

variable {done waiting : List Entry}

/-- At each turn, the properties done and the properties that wait have other names, and keep clear
of its own. -/
theorem middle (h : ClearTurns event (done ++ e :: waiting)) :
    e ∈ personals event ∧ (∀ f ∈ done, sameName f.1 e.1 = false ∧ Clear event f e) ∧
      ∀ f ∈ waiting, sameName f.1 e.1 = false ∧ Clear event e f := by
  have hmem : ∀ f ∈ done ++ e :: waiting, f ∈ personals event := fun f hf => h.sublist.subset hf
  have he : e ∈ personals event := hmem e (by simp)
  obtain ⟨-, hbehind, hahead⟩ := List.pairwise_append.mp h.clear
  obtain ⟨-, hnodup, hne⟩ := List.nodup_append.mp ((nodup_personals event).sublist h.sublist)
  refine ⟨he, fun f hf => ⟨?_, hahead f hf e List.mem_cons_self⟩, fun f hf => ⟨?_, ?_⟩⟩
  · exact sameName_of_ne (hmem f (by simp [hf])) he (hne f hf e List.mem_cons_self)
  · refine sameName_of_ne (hmem f (by simp [hf])) he ?_
    rintro rfl
    exact (List.nodup_cons.mp hnodup).1 hf
  · exact (List.pairwise_cons.mp hbehind).1 f hf

end ClearTurns

namespace Midway

theorem start {turns : List Entry} (hturns : ClearTurns event turns) :
    Midway hash event [] turns event where
  excluded := rfl
  waits _ he := (List.mem_filter.mp (hturns.sublist.subset he)).1
  digest _ he := absurd he List.not_mem_nil
  raw _ he := absurd he List.not_mem_nil
  names _ hx := .inl (Bag.contains_of_mem hx)
  others _ hx _ _ := hx

variable {done waiting : List Entry}

/-- The turn of a property leaves the results of the others as they are, and what waits. -/
theorem step (hmid : Midway hash event done (e :: waiting) now)
    (hturns : ClearTurns event (done ++ e :: waiting)) (hagree : RawTextsAgree event)
    (count : Nat) :
    Midway hash event (done ++ [e]) waiting (hashOne hash true (now, count) e.1).1 := by
  obtain ⟨he, hdone, hwaiting⟩ := hturns.middle
  have hget : now.properties.get? e.1 = some e.2 :=
    Bag.get?_of_mem (hmid.waits e List.mem_cons_self)
  have hraw : raw? now e.1 e.2 = raw? event e.1 e.2 := by
    rw [raw?, raw?, Event.isExcluded, hmid.excluded, ← Event.isExcluded]
  have hafter := fun x : Entry => mem_hashOne_iff hash hget count (x := x)
  rw [hraw] at hafter
  have hkept : ∀ x ∈ now.properties.entries, sameName x.1 e.1 = false →
      (∀ c, raw? event e.1 e.2 = some c → sameName x.1 c.1 = false) →
      x ∈ (hashOne hash true (now, count) e.1).1.properties.entries := fun x hx hne hc =>
    (hafter x).mpr (.inr ⟨hc, .inr ⟨hx, hne⟩⟩)
  have hown : ∀ c, raw? event e.1 e.2 = some c → c ∈ companions event := fun c hc =>
    mem_companions.mpr ⟨e, he, hc⟩
  refine ⟨(hashOne_parts hash true (now, count) e.1).2.trans hmid.excluded, ?_, ?_, ?_, ?_, ?_⟩
  · intro f hf
    obtain ⟨hne, hclear⟩ := hwaiting f hf
    exact hkept f (hmid.waits f (List.mem_cons_of_mem e hf)) hne hclear.ahead
  · intro f hf s hs
    rcases List.mem_append.mp hf with hf | hf
    · obtain ⟨hne, hclear⟩ := hdone f hf
      exact hkept _ (hmid.digest f hf s hs) hne fun c hc => hclear.behind c hc (by rw [hs]; rfl)
    · rw [List.mem_singleton.mp hf] at hs ⊢
      exact (hafter _).mpr (.inr ⟨fun c hc => sameName_of_raw? hc, .inl ⟨s, hs, rfl⟩⟩)
  · intro f hf d hd
    rcases List.mem_append.mp hf with hf | hf
    · refine get?_hashOne hget count (hmid.raw f hf d hd) ((hdone f hf).2.ahead d hd) ?_
      rw [hraw]
      have hmem : d ∈ companions event :=
        mem_companions.mpr ⟨f, hturns.sublist.subset (List.mem_append_left _ hf), hd⟩
      exact fun c hc hsame => hagree c (hown c hc) d hmem hsame
    · rw [List.mem_singleton.mp hf] at hd
      exact Bag.get?_of_mem ((hafter _).mpr (.inl ⟨d, hd, rfl⟩))
  · intro x hx
    rcases (hafter x).mp hx with ⟨c, hc, rfl⟩ | ⟨-, ⟨s, -, rfl⟩ | ⟨hx, -⟩⟩
    · exact .inr ⟨c, hown c hc, rfl⟩
    · exact .inl (Bag.contains_of_mem (e := e) (List.mem_filter.mp he).1)
    · exact hmid.names x hx
  · intro x hx hplain hclean
    exact hkept x (hmid.others x hx hplain hclean) (sameName_of_not_personal hx hplain he)
      fun c hc => hclean c (hown c hc)

theorem run (hmid : Midway hash event done waiting now)
    (hturns : ClearTurns event (done ++ waiting)) (hagree : RawTextsAgree event) (count : Nat) :
    Midway hash event (done ++ waiting) []
      ((waiting.map Prod.fst).foldl (hashOne hash true) (now, count)).1 := by
  induction waiting generalizing done now count with
  | nil => rwa [List.append_nil]
  | cons e waiting ih =>
    have hsplit : done ++ e :: waiting = (done ++ [e]) ++ waiting := by simp
    rw [List.map_cons, List.foldl_cons, hsplit]
    exact ih (hmid.step hturns hagree count) (hsplit ▸ hturns) _

end Midway

/-! ## Each value its own digest -/

variable {session : Session}

/-- If the raw texts keep clear of the personal properties, each of these gets its own digest. -/
theorem hashesEach_of_clear (hprivate : session.collectsPrivate = true)
    (hclear : RawTextsClear event) (hagree : RawTextsAgree event) (hash : String → String) :
    HashesEach hash event (hashAllWith hash session event).1 := by
  have hturns : ClearTurns event ([] ++ personals event) := ⟨List.Sublist.refl _, hclear⟩
  have hmid : Midway hash event (personals event) [] (hashAllWith hash session event).1 := by
    rw [hashAllWith, hprivate]
    exact (Midway.start hturns).run hturns hagree 0
  refine ⟨hmid.digest, fun c hc => ?_, fun e _ _ hraw => ?_, hmid.others⟩
  · obtain ⟨e, he, hput⟩ := mem_companions.mp hc
    exact hmid.raw e he c hput
  · obtain ⟨x, hx, hname⟩ := List.mem_map.mp ((Bag.contains_iff _ _).mp hraw)
    rcases hmid.names x hx with hbefore | ⟨c, hc, hxc⟩
    · refine .inl ((Bag.contains_iff _ _).mpr ?_)
      rw [← hname]
      exact (Bag.contains_iff _ _).mp hbefore
    · exact .inr ⟨c, hc, (sameName_iff _ _).mpr (by rw [← hxc, hname])⟩

/-- A personal property in whose place an earlier raw text was put ends as the digest of that raw
text, because its own turn comes after. -/
theorem rehashed_mem_hashAllWith (hprivate : session.collectsPrivate = true)
    (hdiffer : RawNamesDiffer event) {front back : List Entry} {f : Entry} {c : String × String}
    (hsplit : personals event = front ++ f :: back) (hclear : front.Pairwise (Clear event))
    (he : e ∈ front) (hc : raw? event e.1 e.2 = some c) (hfc : sameName f.1 c.1 = true)
    (hash : String → String) :
    (f.1, .text (hash c.2)) ∈ (hashAllWith hash session event).1.properties.entries := by
  have hmem : ∀ g ∈ front ++ f :: back, g ∈ personals event := fun g hg => hsplit ▸ hg
  have hnodup : (front ++ f :: back).Nodup := hsplit ▸ nodup_personals event
  obtain ⟨-, hbehind, hahead⟩ := List.nodup_append.mp hnodup
  have hturns : ClearTurns event ([] ++ front) :=
    ⟨hsplit ▸ List.sublist_append_left front (f :: back), hclear⟩
  have hmid : Midway hash event front []
      ((front.map Prod.fst).foldl (hashOne hash true) (event, 0)).1 :=
    (Midway.start hturns).run hturns hdiffer.agree 0
  have hnames : names event = front.map Prod.fst ++ f.1 :: back.map Prod.fst := by
    rw [← List.map_cons, ← List.map_append, ← hsplit]
    rfl
  rw [hashAllWith, hprivate, hnames, List.foldl_append, List.foldl_cons]
  generalize (front.map Prod.fst).foldl (hashOne hash true) (event, 0) = state at hmid ⊢
  have hget : state.1.properties.get? f.1 = some (.text c.2) := by
    rw [Bag.get?_congr _ hfc]
    exact hmid.raw e he c hc
  have hturn : (f.1, .text (hash c.2)) ∈
      (hashOne hash true (state.1, state.2) f.1).1.properties.entries :=
    (mem_hashOne_iff hash hget state.2).mpr
      (.inr ⟨fun d hd => sameName_of_raw? hd, .inl ⟨c.2, rfl, rfl⟩⟩)
  refine mem_foldl_hashOne (fun own hown => ?_) (fun own hown => ?_) hturn
  · obtain ⟨g, hg, rfl⟩ := List.mem_map.mp hown
    refine sameName_of_ne (e := f) (hmem f (by simp)) (hmem g (by simp [hg])) ?_
    rintro rfl
    exact (List.nodup_cons.mp hbehind).1 hg
  · obtain ⟨g, hg, rfl⟩ := List.mem_map.mp hown
    rw [← Bool.not_eq_true]
    intro hraw
    rw [sameName_congr hfc, (raw?_eq_some_iff.mp hc).2.2] at hraw
    have hsame := hdiffer e (hmem e (by simp [he])) g (hmem g (by simp [hg])) hraw
    rw [sameName_of_ne (hmem e (by simp [he])) (hmem g (by simp [hg]))
      (hahead e he g (List.mem_cons_of_mem f hg))] at hsame
    exact absurd hsame Bool.false_ne_true

/-- A list whose members are not all related has a first one that some earlier one is not related
to. -/
theorem exists_first_of_not_pairwise {α : Type} {R : α → α → Prop} {l : List α}
    (h : ¬ l.Pairwise R) :
    ∃ front x back, l = front ++ x :: back ∧ front.Pairwise R ∧ ∃ y ∈ front, ¬ R y x := by
  induction l using List.reverseRecOn with
  | nil => exact absurd List.Pairwise.nil h
  | append_singleton front x ih =>
    by_cases hfront : front.Pairwise R
    · refine ⟨front, x, [], rfl, hfront, ?_⟩
      by_contra hall
      refine h (List.pairwise_append.mpr ⟨hfront, List.pairwise_singleton R x, fun y hy z hz => ?_⟩)
      rw [List.mem_singleton.mp hz]
      exact not_not.mp fun hnot => hall ⟨y, hy, hnot⟩
    · obtain ⟨front', y, back, rfl, hrest⟩ := ih hfront
      exact ⟨front', y, back ++ [x], by simp, hrest⟩

/-- Where no two personal properties share the name of a raw text, all of them get their own
digests under every hash only if the raw texts keep clear of them. -/
theorem clear_of_hashesEach (hprivate : session.collectsPrivate = true)
    (hdiffer : RawNamesDiffer event)
    (hall : ∀ hash, HashesEach hash event (hashAllWith hash session event).1) :
    RawTextsClear event := by
  have hchanged : ∀ s : String, s ++ "x" ≠ s := by
    intro s hs
    have := congrArg String.length hs
    simp at this
  by_contra hnot
  obtain ⟨front, f, back, hsplit, hclear, e, he, hclash⟩ := exists_first_of_not_pairwise hnot
  have hmem : ∀ g ∈ front ++ f :: back, g ∈ personals event := fun g hg => hsplit ▸ hg
  refine hclash ⟨fun c hc => ?_, fun c hc htext => ?_⟩
  · rw [← Bool.not_eq_true]
    intro hfc
    have hraw := (hall (· ++ "x")).raw c (mem_companions.mpr ⟨e, hmem e (by simp [he]), hc⟩)
    have hdigest := rehashed_mem_hashAllWith hprivate hdiffer hsplit hclear he hc hfc (· ++ "x")
    rw [← Bag.get?_congr _ hfc, Bag.get?_of_mem hdigest, Option.some.injEq] at hraw
    exact hchanged c.2 (PropertyValue.text.inj hraw)
  · rw [← Bool.not_eq_true]
    intro hec
    obtain ⟨s, hs⟩ := Option.isSome_iff_exists.mp htext
    have hspec := hall fun _ => c.2 ++ "x"
    have hraw := hspec.raw c (mem_companions.mpr ⟨f, hmem f (by simp), hc⟩)
    rw [← Bag.get?_congr _ hec, Bag.get?_of_mem (hspec.digest e (hmem e (by simp [he])) s hs),
      Option.some.injEq] at hraw
    exact hchanged c.2 (PropertyValue.text.inj hraw)

/-- Where the session collects private data, each personal value with a text gets its own digest
and its raw text beside it, and other properties stay, as long as raw texts that share a name are
the same and each keeps clear: the name of a raw text that is sent may be that of a personal
property only if the latter has no text and comes earlier. If raw texts have names of their own, as
they have where all names can be given to properties, this is the exact condition. -/
theorem own_digests_if_raw_texts_keep_clear {session : Session}
    (hprivate : session.collectsPrivate = true) (event : Event) :
    (RawTextsClear event → RawTextsAgree event →
      ∀ hash, HashesEach hash event (hashAllWith hash session event).1) ∧
    (RawNamesDiffer event →
      ((∀ hash, HashesEach hash event (hashAllWith hash session event).1) ↔
        RawTextsClear event)) ∧
    ((∀ e ∈ event.properties.entries, Naming.isPropertyName e.1 = true) →
      RawNamesDiffer event) := by
  refine ⟨hashesEach_of_clear hprivate, fun hdiffer => ?_, RawNamesDiffer.of_names⟩
  exact ⟨clear_of_hashesEach hprivate hdiffer, fun hclear =>
    hashesEach_of_clear hprivate hclear hdiffer.agree⟩

end Personal

namespace Sample

def collecting : Session :=
  { Session.create "s" with collectsPrivate := true }

def user : Entry :=
  ("User", .personal (.text "ann"))

def besideUser : Entry :=
  ("User.NotHashed", .personal (.number .nan))

def loginOf (properties : List Entry) : Event :=
  { pageView with name := "Op/Login", properties := .ofList properties }

end Sample

/-- A property that comes earlier than the user gives way to the raw text of the user. -/
theorem user_stands_beside_digest :
    let event := Sample.loginOf [Sample.besideUser, Sample.user]
    Sample.collecting.collectsPrivate = true ∧ Personal.RawTextsClear event ∧
      (∀ e ∈ event.properties.entries, Naming.isPropertyName e.1 = true) ∧
      ∀ hash, Personal.HashesEach hash event
        (Personal.hashAllWith hash Sample.collecting event).1 := by
  intro event
  have hprivate : Sample.collecting.collectsPrivate = true := rfl
  have hnames : ∀ e ∈ event.properties.entries, Naming.isPropertyName e.1 = true := by
    decide +kernel
  have hclear : Personal.RawTextsClear event := by
    refine List.pairwise_pair.mpr ⟨fun c hc => ?_, fun c hc htext => ?_⟩
    · cases hc
    · exact absurd htext Bool.false_ne_true
  have hspec := Personal.own_digests_if_raw_texts_keep_clear hprivate event
  exact ⟨hprivate, hclear, hnames, (hspec.2.1 (hspec.2.2 hnames)).mpr hclear⟩

theorem Digest.even_length_ofText (s : String) : (ofText s).toList.length % 2 = 0 := by
  rw [ofText, String.toList_ofList, length_hex, Nat.mul_mod_right]

/-- In the other order the raw text of the user is hashed once more, and its name holds no raw text
but a digest. -/
theorem raw_text_is_hashed_again :
    let event := Sample.loginOf [Sample.user, Sample.besideUser]
    let after := (Personal.hashAll Sample.collecting event).1
    Sample.collecting.collectsPrivate = true ∧
      ("User.NotHashed", "ann") ∈ Personal.companions event ∧
      after.properties.get? "User.NotHashed" = some (.text (Digest.ofText "ann")) ∧
      ¬ Personal.HashesEach Digest.ofText event after := by
  intro event after
  have hprivate : Sample.collecting.collectsPrivate = true := rfl
  have hcompanion : ("User.NotHashed", "ann") ∈ Personal.companions event := by
    decide +kernel
  have hdiffer : Personal.RawNamesDiffer event := .of_names (by decide +kernel)
  have hsplit : Personal.personals event = [Sample.user] ++ Sample.besideUser :: [] := rfl
  have hdigest : ("User.NotHashed", .text (Digest.ofText "ann")) ∈ after.properties.entries :=
    Personal.rehashed_mem_hashAllWith (c := ("User.NotHashed", "ann")) hprivate hdiffer hsplit
      (List.pairwise_singleton _ _) (List.mem_singleton_self _) rfl (sameName_refl _)
      Digest.ofText
  have hget := Bag.get?_of_mem hdigest
  refine ⟨hprivate, hcompanion, hget, fun hspec => ?_⟩
  have hraw := hspec.raw _ hcompanion
  rw [hget, Option.some.injEq] at hraw
  have heven := Digest.even_length_ofText "ann"
  rw [PropertyValue.text.inj hraw] at heven
  exact absurd heven (by decide)

end EventGate
