import Mathlib.Data.List.Forall2
import EventGate.Proofs.PlainValues

/-! # Digests in the place of personal values

Where the session does not collect private data, the hashing puts a digest in the place of each
personal value, or nothing where the value has no text. Nothing else of a personal value shows in
the result.
-/

namespace EventGate

open Text

/-! ## Texts of values -/

namespace PropertyValue

def payload : PropertyValue → PropertyValue
  | personal inner => inner.payload
  | value => value

def text? (value : PropertyValue) : Option String :=
  value.invariantText.toOption

@[simp] theorem text?_personal (inner : PropertyValue) : (personal inner).text? = inner.text? := rfl

theorem text?_of_error {value : PropertyValue} {fault : PersonalFault}
    (h : value.invariantText = .error fault) : value.text? = none := by
  rw [text?, h]
  rfl

theorem text?_of_ok {value : PropertyValue} {s : String} (h : value.invariantText = .ok s) :
    value.text? = some s := by
  rw [text?, h]
  rfl

/-- Only structured values and numbers that are not finite have no text, marked or not. -/
theorem text?_eq_none_iff (value : PropertyValue) :
    value.text? = none ↔
      (∃ json, value.payload = structured json) ∨
        ∃ x, value.payload = number x ∧ x.isFinite = false := by
  induction value with
  | text s => simp [text?, invariantText, payload, Except.toOption]
  | number x =>
    cases hx : x.isFinite <;> simp [text?, invariantText, payload, Except.toOption, hx]
  | flag b => simp [text?, invariantText, payload, Except.toOption]
  | personal inner ih => exact ih
  | structured json => simp [text?, invariantText, payload, Except.toOption]

end PropertyValue

namespace Personal

variable (hash : String → String)

/-! ## One property after another -/

def hasDigest (e : Entry) : Bool :=
  e.2.isPersonal && e.2.text?.isSome

/-- What stands in the place of a property after the hashing. -/
def disguised? (e : Entry) : Option Entry :=
  if e.2.isPersonal then e.2.text?.map fun s => (e.1, .text (hash s)) else some e

theorem hashOne_of_get? {event : Event} {name : String} {value : PropertyValue}
    (hget : event.properties.get? name = some value) (attach : Bool) (count : Nat) :
    value.text? = none ∧ hashOne hash attach (event, count) name =
        ({ event with properties := event.properties.erase name }, count) ∨
      ∃ s, value.text? = some s ∧ hashOne hash attach (event, count) name =
        (replaced hash attach event name s, count + 1) := by
  rcases hashOne_cases hash attach event count name with
    ⟨hnone, -⟩ | ⟨other, fault, hother, hfault, heq⟩ | ⟨other, s, hother, hs, heq⟩
  · rw [hget] at hnone
    cases hnone
  · rw [hget] at hother
    cases hother
    exact .inl ⟨PropertyValue.text?_of_error hfault, heq⟩
  · rw [hget] at hother
    cases hother
    exact .inr ⟨s, PropertyValue.text?_of_ok hs, heq⟩

/-- The turn of a personal property changes its own place only. -/
theorem hashOne_of_split {event : Event} {done back : List Entry} {e : Entry}
    (hentries : event.properties.entries = done ++ e :: back) (he : e.2.isPersonal = true)
    (count : Nat) :
    ∃ bag : Bag, bag.entries = done ++ (disguised? hash e).toList ++ back ∧
      hashOne hash false (event, count) e.1 =
        ({ event with properties := bag }, count + (hasDigest e).toNat) := by
  have hget : event.properties.get? e.1 = some e.2 :=
    Bag.get?_of_mem (hentries ▸ List.mem_append_right done List.mem_cons_self)
  rcases hashOne_of_get? hash hget false count with ⟨htext, heq⟩ | ⟨s, htext, heq⟩
  · refine ⟨event.properties.erase e.1, ?_, ?_⟩
    · rw [Bag.entries_erase_of_split hentries, disguised?, he, htext]
      simp
    · rw [heq, hasDigest, htext, Option.isSome_none, Bool.and_false]
      rfl
  · refine ⟨event.properties.insert e.1 (.text (hash s)), ?_, ?_⟩
    · rw [Bag.entries_insert_of_split hentries, disguised?, he, htext]
      simp
    · rw [heq, hasDigest, he, htext]
      rfl

/-- The turns of all personal properties change each in its place. The turns that were before have
left their results in `done`. -/
theorem foldl_hashOne_of_append {front done : List Entry} {event : Event}
    (hentries : event.properties.entries = done ++ front) (count : Nat) :
    ∃ bag : Bag, bag.entries = done ++ front.filterMap (disguised? hash) ∧
      ((front.filter fun e => e.2.isPersonal).map Prod.fst).foldl (hashOne hash false)
          (event, count) =
        ({ event with properties := bag }, count + front.countP hasDigest) := by
  induction front generalizing done event count with
  | nil => exact ⟨event.properties, hentries, rfl⟩
  | cons e front ih =>
    cases he : e.2.isPersonal with
    | false =>
      have hsplit : event.properties.entries = done ++ [e] ++ front := by
        rw [hentries, List.append_assoc, List.singleton_append]
      obtain ⟨bag, hbag, hrun⟩ := ih hsplit count
      refine ⟨bag, ?_, ?_⟩
      · rw [hbag, List.append_assoc, List.filterMap_cons_some]
        · rfl
        · rw [disguised?, he, if_neg Bool.false_ne_true]
      · rw [List.filter_cons_of_neg (by simp [he]), hrun, List.countP_cons_of_neg]
        simp [hasDigest, he]
    | true =>
      obtain ⟨middle, hmiddle, hturn⟩ := hashOne_of_split hash hentries he count
      let next : Event := { event with properties := middle }
      have hnext : next.properties.entries = done ++ (disguised? hash e).toList ++ front := hmiddle
      obtain ⟨bag, hbag, hrun⟩ := ih hnext (count + (hasDigest e).toNat)
      refine ⟨bag, ?_, ?_⟩
      · rw [hbag, List.filterMap_cons, List.append_assoc]
        cases disguised? hash e <;> rfl
      · rw [List.filter_cons_of_pos (by simp [he]), List.map_cons, List.foldl_cons, hturn, hrun,
          List.countP_cons, Nat.add_assoc, Nat.add_comm (front.countP _)]
        cases hasDigest e <;> rfl

/-! ## A whole event -/

variable {hash} {session : Session} {event : Event}

/-- Where raw texts are not sent, the hashing works on each property alone. -/
theorem hashAllWith_of_not_private (hash : String → String)
    (hprivate : session.collectsPrivate = false) (event : Event) :
    ∃ bag : Bag, bag.entries = event.properties.entries.filterMap (disguised? hash) ∧
      hashAllWith hash session event =
        ({ event with properties := bag }, event.properties.entries.countP hasDigest) := by
  have hstart : event.properties.entries = [] ++ event.properties.entries := rfl
  obtain ⟨bag, hbag, hrun⟩ := foldl_hashOne_of_append hash hstart 0
  refine ⟨bag, hbag, ?_⟩
  rw [hashAllWith, hprivate, names, hrun, Nat.zero_add]

/-- A second hashing finds nothing to do. -/
theorem hashAllWith_hashAllWith (hash : String → String) (session : Session) (event : Event) :
    let after := (hashAllWith hash session event).1
    hashAllWith hash session after = (after, 0) := by
  intro after
  have hnone : names after = [] := by
    rw [names, List.map_eq_nil_iff, List.filter_eq_nil_iff]
    intro e he
    rw [isPersonal_hashAllWith hash session event he]
    exact Bool.false_ne_true
  rw [hashAllWith, hnone, List.foldl_nil]

/-! ## Events that look the same -/

/-- Properties that are the same but for personal values, of which both have texts with one digest
or neither has a text. -/
inductive SameInDisguise (hash : String → String) : Entry → Entry → Prop
  | same (e : Entry) : SameInDisguise hash e e
  | digests {name : String} {a b : PropertyValue} {s t : String} (ha : a.text? = some s)
      (hb : b.text? = some t) (hdigest : hash s = hash t) :
      SameInDisguise hash (name, .personal a) (name, .personal b)
  | neither {name : String} {a b : PropertyValue} (ha : a.text? = none) (hb : b.text? = none) :
      SameInDisguise hash (name, .personal a) (name, .personal b)

/-- Events that differ in personal values only, and there as `SameInDisguise` allows. -/
structure LookAlike (hash : String → String) (event other : Event) : Prop where
  rest : other = { event with properties := other.properties }
  entries : List.Forall₂ (SameInDisguise hash) event.properties.entries other.properties.entries

theorem SameInDisguise.disguised?_eq {e other : Entry} (h : SameInDisguise hash e other) :
    disguised? hash e = disguised? hash other := by
  cases h with
  | same => rfl
  | digests ha hb hdigest =>
    simp [disguised?, PropertyValue.isPersonal, ha, hb, hdigest]
  | neither ha hb => simp [disguised?, PropertyValue.isPersonal, ha, hb]

theorem SameInDisguise.hasDigest_eq {e other : Entry} (h : SameInDisguise hash e other) :
    hasDigest e = hasDigest other := by
  cases h with
  | same => rfl
  | digests ha hb => simp [hasDigest, PropertyValue.isPersonal, ha, hb]
  | neither ha hb => simp [hasDigest, PropertyValue.isPersonal, ha, hb]

theorem SameInDisguise.forall₂ {entries others : List Entry}
    (h : List.Forall₂ (SameInDisguise hash) entries others) :
    others.filterMap (disguised? hash) = entries.filterMap (disguised? hash) ∧
      others.countP hasDigest = entries.countP hasDigest := by
  induction h with
  | nil => exact ⟨rfl, rfl⟩
  | cons hfirst _ ih =>
    rw [List.filterMap_cons, List.filterMap_cons, List.countP_cons, List.countP_cons, ih.1, ih.2,
      hfirst.disguised?_eq, hfirst.hasDigest_eq]
    exact ⟨rfl, rfl⟩

/-- Events that look the same are hashed into the same event. -/
theorem LookAlike.hashAllWith_eq (hprivate : session.collectsPrivate = false) {other : Event}
    (h : LookAlike hash event other) :
    hashAllWith hash session other = hashAllWith hash session event := by
  obtain ⟨bag, hbag, hrun⟩ := hashAllWith_of_not_private hash hprivate event
  obtain ⟨bag', hbag', hrun'⟩ := hashAllWith_of_not_private hash hprivate other
  obtain ⟨hentries, hcount⟩ := SameInDisguise.forall₂ h.entries
  have hbags : bag' = bag := Bag.ext (by rw [hbag', hbag, hentries])
  rw [hrun', hrun, hcount, hbags, h.rest]

/-- Where the session does not collect private data, the hashing replaces each personal value that
has a text by the digest of it, removes those that are structured or not finite under their marks,
and changes nothing else; done again, it changes nothing. So events that differ in personal values
only come out as the same event if these have the same digests, or have no text. -/
theorem personal_values_leave_as_digests (hash : String → String) {session : Session}
    (hprivate : session.collectsPrivate = false) (event : Event) :
    let after := hashAllWith hash session event
    after.1 = { event with properties := after.1.properties } ∧
      after.1.properties.entries = event.properties.entries.filterMap (disguised? hash) ∧
      after.2 = event.properties.entries.countP hasDigest ∧
      (∀ value : PropertyValue, value.text? = none ↔
        (∃ json, value.payload = .structured json) ∨
          ∃ x, value.payload = .number x ∧ x.isFinite = false) ∧
      hashAllWith hash session after.1 = (after.1, 0) ∧
      ∀ other, LookAlike hash event other → hashAllWith hash session other = after := by
  intro after
  obtain ⟨bag, hbag, hrun⟩ := hashAllWith_of_not_private hash hprivate event
  have hafter : after = ({ event with properties := bag }, _) := hrun
  refine ⟨by rw [hafter], by rw [hafter, hbag], by rw [hafter], PropertyValue.text?_eq_none_iff,
    hashAllWith_hashAllWith hash session event, fun other h => h.hashAllWith_eq hprivate⟩

end Personal

namespace Sample

/-- A sign-in of a user, with a score that is personal under two marks. -/
def signIn (user score : PropertyValue) : Event :=
  { pageView with
    name := "Op/Login"
    properties := .ofList
      [("User", .personal user), ("Attempts", .flag true), ("Score", .personal (.personal score))] }

/-- A digest that tells texts apart by their length only. -/
def stars (s : String) : String :=
  String.ofList (s.toList.map fun _ => '*')

end Sample

/-- Two sign-ins of users whose names have the same digest, with scores that have no text, leave as
one. -/
theorem sign_ins_leave_alike :
    let session := Session.create "s"
    let ann := Sample.signIn (.text "ann") (.structured .null)
    let bob := Sample.signIn (.text "bob") (.number .nan)
    let after := Personal.hashAllWith Sample.stars session ann
    session.collectsPrivate = false ∧ Personal.LookAlike Sample.stars ann bob ∧
      Personal.hashAllWith Sample.stars session bob = after ∧ after.2 = 1 ∧
      after.1.properties.names = ["User", "Attempts"] := by
  intro session ann bob after
  have hprivate : session.collectsPrivate = false := rfl
  have halike : Personal.LookAlike Sample.stars ann bob :=
    ⟨rfl, .cons (.digests (s := "ann") (t := "bob") rfl rfl rfl)
      (.cons (.same _) (.cons (.neither rfl rfl) .nil))⟩
  have hleave := Personal.personal_values_leave_as_digests Sample.stars hprivate ann
  refine ⟨hprivate, halike, hleave.2.2.2.2.2 bob halike, ?_⟩
  decide +kernel

end EventGate
