import EventGate.Proofs.Bags
import EventGate.Proofs.Sending

/-! # Fingerprints of settings

A fingerprint joins the name of an event and its properties as fields of text. A value may hold what
looks like a further field. Read back, a fingerprint gives the fields with all values cut at such
places; so two events have the same fingerprint exactly if they are the same when cut.
-/

namespace EventGate

open Text

/-! ## Names -/

namespace Naming

def isKeyChar (c : Char) : Bool :=
  (isNameChar c || c == '/') && !c.isUpper

theorem toNat_lt_of_isNameChar {c : Char} (h : isNameChar c = true) : c.toNat < 128 := by
  have hbelow {last : UInt32} (hc : c.val ≤ last) (hlast : last.toNat < 128) : c.toNat < 128 :=
    Nat.lt_of_le_of_lt (UInt32.le_iff_toNat_le.mp hc) hlast
  change (((((c.isUpper || c.isLower) || c.isDigit) || c == '_') || c == '.') || c == '-') = true
    at h
  simp only [Bool.or_eq_true, beq_iff_eq] at h
  rcases h with ((((hupper | hlower) | hdigit) | rfl) | rfl) | rfl
  · exact hbelow (of_decide_eq_true hupper).2 (by decide)
  · exact hbelow (of_decide_eq_true (Bool.and_eq_true_iff.mp hlower).2) (by decide)
  · exact hbelow (of_decide_eq_true (Bool.and_eq_true_iff.mp hdigit).2) (by decide)
  all_goals decide

theorem isKeyChar_toLower_of_lt : ∀ n < 128, isNameChar (Char.ofNat n) || Char.ofNat n == '/' →
    isKeyChar (Char.ofNat n).toLower = true := by
  decide +kernel

theorem toNat_lt_of_name {c : Char} (h : (isNameChar c || c == '/') = true) : c.toNat < 128 := by
  rw [Bool.or_eq_true, beq_iff_eq] at h
  rcases h with h | rfl
  · exact toNat_lt_of_isNameChar h
  · decide

theorem isKeyChar_toLower {c : Char} (h : (isNameChar c || c == '/') = true) :
    isKeyChar c.toLower = true := by
  have hlt : c.toNat < 128 := toNat_lt_of_name h
  rw [← Char.ofNat_toNat c] at h ⊢
  exact isKeyChar_toLower_of_lt c.toNat hlt h

theorem foldChars_of_name {chars : List Char}
    (h : ∀ c ∈ chars, (isNameChar c || c == '/') = true) :
    foldChars chars = chars.map Char.toLower :=
  if_pos (List.all_eq_true.mpr fun c hc => decide_eq_true (toNat_lt_of_name (h c hc)))

theorem isKeyChar_of_mem_foldChars {chars : List Char}
    (h : ∀ c ∈ chars, (isNameChar c || c == '/') = true) :
    ∀ c ∈ foldChars chars, isKeyChar c = true := by
  rw [foldChars_of_name h]
  intro c hc
  obtain ⟨own, hown, rfl⟩ := List.mem_map.mp hc
  exact isKeyChar_toLower (h own hown)

theorem isKeyChar_of_isEventName {name : String} (h : isEventName name = true) :
    ∀ c ∈ foldChars name.toList, isKeyChar c = true := by
  refine isKeyChar_of_mem_foldChars fun c hc => ?_
  rw [Bool.or_eq_true, beq_iff_eq]
  rcases eq_or_mem_splitChars '/' hc with rfl | ⟨part, hpart, hc⟩
  · exact .inr rfl
  · simp only [isEventName, Bool.and_eq_true, List.all_eq_true] at h
    exact .inl ((h.2 part hpart).2 c hc)

end Naming

/-! ## Fields -/

abbrev Field := List Char × List Char

namespace Field

def chars (field : Field) : List Char :=
  '|' :: (field.1 ++ '=' :: field.2)

def IsKey (key : List Char) : Prop :=
  key ≠ [] ∧ ∀ c ∈ key, Naming.isKeyChar c = true

theorem isKey_fold {name : String} (h : Naming.isPropertyName name = true) :
    IsKey (fold name).toList := by
  rw [Naming.isPropertyName, Bool.and_eq_true, List.all_eq_true, Bool.not_eq_true',
    String.isEmpty_eq_false_iff] at h
  rw [toList_fold]
  refine ⟨?_, Naming.isKeyChar_of_mem_foldChars h.2⟩
  rw [Naming.foldChars_of_name h.2, ne_eq, List.map_eq_nil_iff, String.toList_eq_nil_iff]
  exact h.1

/-- A text as a field, if it goes on like one behind its bar. -/
def ofChars? (text : List Char) : Option Field :=
  match text.dropWhile Naming.isKeyChar with
  | '=' :: value =>
    let key := text.takeWhile Naming.isKeyChar
    if key.isEmpty then none else some (key, value)
  | _ => none

theorem ofChars?_of_isKey {key : List Char} (h : IsKey key) (value : List Char) :
    ofChars? (key ++ '=' :: value) = some (key, value) := by
  have hdrop : (key ++ '=' :: value).dropWhile Naming.isKeyChar = '=' :: value := by
    rw [List.dropWhile_append_of_pos h.2]
    rfl
  have htake : (key ++ '=' :: value).takeWhile Naming.isKeyChar = key := by
    rw [List.takeWhile_append_of_pos h.2]
    exact List.append_nil key
  rw [ofChars?, hdrop, htake]
  exact if_neg fun hempty => h.1 (List.isEmpty_iff.mp hempty)

theorem eq_of_ofChars? {text : List Char} {field : Field} (h : ofChars? text = some field) :
    IsKey field.1 ∧ text = field.1 ++ '=' :: field.2 := by
  unfold ofChars? at h
  split at h
  next value hdrop =>
    dsimp only at h
    split at h
    next => exact absurd h (Option.some_ne_none _).symm
    next hne =>
      cases h
      refine ⟨⟨fun hnil => hne (List.isEmpty_iff.mpr hnil), fun c hc => ?_⟩, ?_⟩
      · exact List.all_eq_true.mp List.all_takeWhile c hc
      · rw [← hdrop, List.takeWhile_append_dropWhile]
  next => exact absurd h (Option.some_ne_none _).symm

theorem bar_notMem_of_isKeyChar {text : List Char} (h : ∀ c ∈ text, Naming.isKeyChar c = true) :
    '|' ∉ text := fun hbar => absurd (h '|' hbar) (by decide)

/-- A text up to the first place where it looks like a field, and the fields from there on. -/
def cut : List Char → List Char × List Field
  | [] => ([], [])
  | c :: rest =>
    -- The rest is cut first, so that a value ends where the next field starts.
    match if c = '|' then ofChars? (cut rest).1 else none with
    | some field => ([], field :: (cut rest).2)
    | none => (c :: (cut rest).1, (cut rest).2)

theorem cut_cons_of_ne {c : Char} (h : c ≠ '|') (rest : List Char) :
    cut (c :: rest) = (c :: (cut rest).1, (cut rest).2) := by
  rw [cut, if_neg h]

theorem cut_bar (rest : List Char) :
    cut ('|' :: rest) =
      match ofChars? (cut rest).1 with
      | some field => ([], field :: (cut rest).2)
      | none => ('|' :: (cut rest).1, (cut rest).2) := by
  rw [cut, if_pos rfl]

theorem cut_append_of_no_bar {text : List Char} (h : '|' ∉ text) (rest : List Char) :
    cut (text ++ rest) = (text ++ (cut rest).1, (cut rest).2) := by
  induction text with
  | nil => rfl
  | cons c text ih =>
    rw [List.mem_cons, not_or] at h
    rw [List.cons_append, cut_cons_of_ne (Ne.symm h.1), ih h.2]
    rfl

/-- A text that starts as a field is cut there, and its value at the fields in it. -/
theorem cut_field {key : List Char} (h : IsKey key) (rest : List Char) :
    cut ('|' :: (key ++ '=' :: rest)) = ([], (key, (cut rest).1) :: (cut rest).2) := by
  have hkey : cut (key ++ '=' :: rest) = (key ++ '=' :: (cut rest).1, (cut rest).2) := by
    rw [cut_append_of_no_bar (bar_notMem_of_isKeyChar h.2), cut_cons_of_ne (by decide)]
  rw [cut_bar, hkey]
  dsimp only
  rw [ofChars?_of_isKey h]

/-- Before a place where it is cut anyway, a text is cut as it is alone. -/
theorem cut_append {rest : List Char} (h : (cut rest).1 = []) (text : List Char) :
    cut (text ++ rest) = ((cut text).1, (cut text).2 ++ (cut rest).2) := by
  -- A bar looks only as far as the first field behind it, and `rest` starts with a field.
  induction text with
  | nil => exact Prod.ext h rfl
  | cons c text ih =>
    rw [List.cons_append]
    by_cases hc : c = '|'
    · rw [hc, cut_bar, cut_bar, ih]
      dsimp only
      cases ofChars? (cut text).1 <;> rfl
    · rw [cut_cons_of_ne hc, cut_cons_of_ne hc, ih]

theorem isKey_of_mem_cut {text : List Char} {field : Field} (h : field ∈ (cut text).2) :
    IsKey field.1 := by
  induction text with
  | nil => exact absurd h List.not_mem_nil
  | cons c rest ih =>
    by_cases hc : c = '|'
    · rw [hc, cut_bar] at h
      split at h
      next own hown =>
        rcases List.mem_cons.mp h with rfl | hrest
        · exact (eq_of_ofChars? hown).1
        · exact ih hrest
      next => exact ih h
    · rw [cut_cons_of_ne hc] at h
      exact ih h

theorem append_flatMap_cut (text : List Char) :
    (cut text).1 ++ (cut text).2.flatMap chars = text := by
  induction text with
  | nil => rfl
  | cons c rest ih =>
    by_cases hc : c = '|'
    · rw [hc, cut_bar]
      split
      next field hfield =>
        rw [(eq_of_ofChars? hfield).2] at ih
        rw [List.nil_append, List.flatMap_cons, chars, List.cons_append, ih]
      next => rw [List.cons_append, ih]
    · rw [cut_cons_of_ne hc, List.cons_append, ih]

/-! ## Values that look like fields -/

/-- Whether a text holds what looks like a field. -/
def Imitates (text : List Char) : Prop :=
  ∃ before key after, IsKey key ∧ text = before ++ '|' :: (key ++ '=' :: after)

theorem cut_snd_ne_nil_of_append {rest : List Char} (h : (cut rest).2 ≠ []) (text : List Char) :
    (cut (text ++ rest)).2 ≠ [] := by
  induction text with
  | nil => exact h
  | cons c text ih =>
    rw [List.cons_append, cut]
    split
    · exact List.cons_ne_nil _ _
    · exact ih

theorem imitates_iff (text : List Char) : Imitates text ↔ (cut text).2 ≠ [] := by
  constructor
  · rintro ⟨before, key, after, hkey, rfl⟩
    refine cut_snd_ne_nil_of_append ?_ before
    rw [cut_field hkey]
    exact List.cons_ne_nil _ _
  · intro h
    obtain ⟨field, rest, hfields⟩ := List.exists_cons_of_ne_nil h
    have htext : (cut text).1 ++ (field :: rest).flatMap chars = text := by
      rw [← hfields, append_flatMap_cut]
    refine ⟨(cut text).1, field.1, field.2 ++ rest.flatMap chars,
      isKey_of_mem_cut (hfields ▸ List.mem_cons_self), htext.symm.trans ?_⟩
    rw [List.flatMap_cons, chars, List.cons_append, List.append_assoc, List.cons_append]

instance (text : List Char) : Decidable (Imitates text) :=
  decidable_of_iff _ (imitates_iff text).symm

theorem cut_of_not_imitates {text : List Char} (h : ¬ Imitates text) : cut text = (text, []) := by
  have hnone : (cut text).2 = [] := Decidable.not_not.mp fun hne => h ((imitates_iff text).mpr hne)
  have htext := append_flatMap_cut text
  rw [hnone, List.flatMap_nil, List.append_nil] at htext
  exact Prod.ext htext hnone

def pieces (field : Field) : List Field :=
  (field.1, (cut field.2).1) :: (cut field.2).2

theorem flatMap_chars_pieces (field : Field) : field.pieces.flatMap chars = field.chars := by
  rw [pieces, List.flatMap_cons, chars, chars, List.cons_append, List.append_assoc,
    List.cons_append, append_flatMap_cut]

/-- The text of some fields is cut into the pieces of each. -/
theorem cut_flatMap_chars {fields : List Field} (h : ∀ field ∈ fields, IsKey field.1) :
    cut (fields.flatMap chars) = ([], fields.flatMap pieces) := by
  induction fields with
  | nil => rfl
  | cons field rest ih =>
    have ih := ih fun own hown => h own (List.mem_cons_of_mem _ hown)
    have hrest : (cut (rest.flatMap chars)).1 = [] := congrArg Prod.fst ih
    rw [List.flatMap_cons, chars, List.cons_append, List.append_assoc, List.cons_append,
      cut_field (h field List.mem_cons_self), cut_append hrest, ih, List.flatMap_cons]
    rfl

end Field

/-! ## What a fingerprint tells -/

namespace Entries

theorem filter_insert {name : String} {keep : Entry → Bool}
    (hkeep : ∀ e : Entry, sameName e.1 name = true → keep e = false) (value : PropertyValue)
    (entries : List Entry) : (insert name value entries).filter keep = entries.filter keep := by
  have hnew : keep (name, value) = false := hkeep _ (sameName_refl name)
  induction entries with
  | nil => simp [insert_nil, hnew]
  | cons e rest ih =>
    rw [insert_cons]
    split
    next hsame => simp [hnew, hkeep e hsame]
    next => rw [List.filter_cons, List.filter_cons, ih]

end Entries

namespace HostStage

def told (event : Event) : List Entry :=
  event.sent.filter fun e => !Naming.isReserved e.1

/-- What sets one setting apart from another: its name, and its properties by names and texts. -/
def content (event : Event) : String × List (String × String) :=
  (fold event.name, (told event).map fun e => (fold e.1, e.2.matchText))

def fields (event : Event) : List Field :=
  (content event).2.map fun field => (field.1.toList, field.2.toList)

/-- The name and the fields of an event with the values cut at what looks like a field. -/
def reading (event : Event) : List Char × List Field :=
  ((fold event.name).toList, (fields event).flatMap Field.pieces)

/-- No value that a fingerprint tells of holds what looks like a field. -/
def TellsClearly (event : Event) : Prop :=
  ∀ field ∈ (content event).2, ¬ Field.Imitates field.2.toList

instance (event : Event) : Decidable (TellsClearly event) :=
  inferInstanceAs (Decidable (∀ field ∈ (content event).2, ¬ Field.Imitates field.2.toList))

theorem told_put_of_isReserved {name : String} (h : Naming.isReserved name = true) (event : Event)
    (value : PropertyValue) : told (event.put name value) = told event := by
  rw [told, told, Event.sent, Event.sent, List.filter_filter, List.filter_filter]
  refine Entries.filter_insert (fun e hsame => ?_) value event.properties.entries
  rw [Naming.isReserved_congr ((sameName_iff e.1 name).1 hsame), h]
  rfl

theorem content_put_of_isReserved {name : String} (h : Naming.isReserved name = true)
    (event : Event) (value : PropertyValue) : content (event.put name value) = content event := by
  rw [content, content, told_put_of_isReserved h]
  rfl

theorem fields_eq (event : Event) :
    fields event = (told event).map fun e => ((fold e.1).toList, e.2.matchText.toList) := by
  rw [fields, content, List.map_map]
  rfl

theorem toList_join_fingerprintPart (entries : List Entry) :
    (String.join (entries.map fingerprintPart)).toList =
      (entries.map fun e => ((fold e.1).toList, e.2.matchText.toList)).flatMap Field.chars := by
  induction entries with
  | nil => rfl
  | cons e rest ih =>
    rw [List.map_cons, String.join_cons, String.toList_append, ih]
    simp [fingerprintPart, Field.chars]

theorem toList_fingerprint (event : Event) :
    (fingerprint event).toList =
      (fold event.name).toList ++ (fields event).flatMap Field.chars := by
  rw [fingerprint, String.toList_append, toList_join_fingerprintPart, fields_eq]
  rfl

theorem fingerprint_congr {a b : Event} (h : content a = content b) :
    fingerprint a = fingerprint b := by
  have hname : fold a.name = fold b.name := congrArg Prod.fst h
  rw [← String.toList_inj, toList_fingerprint, toList_fingerprint, fields, fields, h, hname]

theorem fields_inj {a b : Event} (h : fields a = fields b) : (content a).2 = (content b).2 := by
  refine List.map_inj_right (fun x y hxy => ?_) |>.mp h
  exact Prod.ext (String.toList_inj.mp (congrArg Prod.fst hxy))
    (String.toList_inj.mp (congrArg Prod.snd hxy))

/-- A fingerprint is the text of what is read from it. -/
theorem append_flatMap_reading (event : Event) :
    (reading event).1 ++ (reading event).2.flatMap Field.chars = (fingerprint event).toList := by
  rw [toList_fingerprint, reading, List.flatMap_assoc]
  simp only [Field.flatMap_chars_pieces]

theorem tellsClearly_congr {a b : Event} (h : content a = content b) :
    TellsClearly a ↔ TellsClearly b := by
  rw [TellsClearly, TellsClearly, h]

theorem reading_of_tellsClearly {event : Event} (h : TellsClearly event) :
    reading event = ((fold event.name).toList, fields event) := by
  have hpieces : ∀ field ∈ fields event, field.pieces = [field] := by
    intro field hfield
    obtain ⟨text, htext, rfl⟩ := List.mem_map.mp hfield
    rw [Field.pieces, Field.cut_of_not_imitates (h text htext)]
  rw [reading, List.flatMap_def, List.map_congr_left hpieces, ← List.flatMap_def,
    List.flatMap_singleton']

end HostStage

/-! ## Events with proper names -/

def Event.isWellNamed (event : Event) : Bool :=
  Naming.isEventName event.name && event.properties.names.all Naming.isPropertyName

namespace Event

theorem isWellNamed_iff (event : Event) :
    event.isWellNamed = true ↔ Naming.isEventName event.name = true ∧
      ∀ e ∈ event.properties.entries, Naming.isPropertyName e.1 = true := by
  rw [isWellNamed, Bool.and_eq_true, List.all_eq_true, Bag.names, List.forall_mem_map]

theorem isWellNamed_put {event : Event} (h : event.isWellNamed = true) {name : String}
    (hname : Naming.isPropertyName name = true) (value : PropertyValue) :
    (event.put name value).isWellNamed = true := by
  rw [isWellNamed_iff] at h ⊢
  refine ⟨h.1, fun e he => ?_⟩
  rcases Bag.mem_insert.mp he with rfl | ⟨he, -⟩
  · exact hname
  · exact h.2 e he

theorem isWellNamed_create {id name : String} {event : Event} (h : create id name = .ok event) :
    event.isWellNamed = true := by
  unfold create Naming.checkEventName at h
  split at h
  next hname =>
    cases h
    exact (isWellNamed_iff _).mpr ⟨hname, fun e he => absurd he List.not_mem_nil⟩
  next => cases h

theorem isWellNamed_setProperty {event changed : Event} (hnamed : event.isWellNamed = true)
    {name : String} {value : PropertyValue} (h : event.setProperty name value = .ok changed) :
    changed.isWellNamed = true := by
  unfold setProperty Naming.checkPropertyName at h
  split at h
  next hname =>
    cases h
    exact isWellNamed_put hnamed hname value
  next => cases h

end Event

namespace HostStage

/-- The fingerprint of an event with proper names can be read back. -/
theorem cut_fingerprint {event : Event} (h : event.isWellNamed = true) :
    Field.cut (fingerprint event).toList = reading event := by
  rw [Event.isWellNamed_iff] at h
  have hname : '|' ∉ (fold event.name).toList := by
    rw [toList_fold]
    exact Field.bar_notMem_of_isKeyChar (Naming.isKeyChar_of_isEventName h.1)
  have hkeys : ∀ field ∈ fields event, Field.IsKey field.1 := by
    intro field hfield
    rw [fields_eq] at hfield
    obtain ⟨e, he, rfl⟩ := List.mem_map.mp hfield
    dsimp only
    exact Field.isKey_fold (h.2 e (Event.mem_sent.mp (List.mem_filter.mp he).1).1)
  rw [toList_fingerprint, Field.cut_append_of_no_bar hname, Field.cut_flatMap_chars hkeys,
    List.append_nil]
  rfl

section

variable {a b : Event} (ha : a.isWellNamed = true) (hb : b.isWellNamed = true)

include ha hb

theorem fingerprint_eq_iff_reading_eq : fingerprint a = fingerprint b ↔ reading a = reading b := by
  constructor
  · intro h
    rw [← cut_fingerprint ha, ← cut_fingerprint hb, h]
  · intro h
    rw [← String.toList_inj, ← append_flatMap_reading, ← append_flatMap_reading, h]

/-- Events whose values do not look like fields have the same fingerprint exactly if they have the
same content. -/
theorem fingerprint_eq_iff_content_eq (hclear : TellsClearly a) (hother : TellsClearly b) :
    fingerprint a = fingerprint b ↔ content a = content b := by
  constructor
  · intro h
    rw [fingerprint_eq_iff_reading_eq ha hb, reading_of_tellsClearly hclear,
      reading_of_tellsClearly hother] at h
    obtain ⟨hchars, hfields⟩ := Prod.mk.inj h
    have hname : fold a.name = fold b.name := String.toList_inj.mp hchars
    exact Prod.ext hname (fields_inj hfields)
  · exact fingerprint_congr

end

end HostStage

end EventGate
