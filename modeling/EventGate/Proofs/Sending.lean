import EventGate.Proofs.StandardStages

/-! # What an event sends

How the operations on events change what is sent. Only setting a property can add a name to what is
sent; holding properties back can only take names away.
-/

namespace EventGate

open Text

/-! ## Names up to case -/

theorem NameSet.contains_congr (set : NameSet) {a b : String} (h : fold a = fold b) :
    set.contains a = set.contains b := by
  rw [contains, contains, h]

theorem Naming.isReserved_congr {a b : String} (h : fold a = fold b) :
    isReserved a = isReserved b := by
  have hchars : foldChars a.toList = foldChars b.toList := by
    rw [← toList_fold, ← toList_fold, h]
  simp only [isReserved, hchars]

namespace Entries

theorem mem_insert {name : String} {value : PropertyValue} {entries : List Entry} {e : Entry}
    (he : e ∈ insert name value entries) : e = (name, value) ∨ e ∈ entries := by
  induction entries with
  | nil => exact .inl (List.mem_singleton.mp he)
  | cons first rest ih =>
    rw [insert_cons] at he
    split at he
    · rcases List.mem_cons.mp he with rfl | he
      · exact .inl rfl
      · exact .inr (List.mem_cons_of_mem first he)
    · rcases List.mem_cons.mp he with rfl | he
      · exact .inr List.mem_cons_self
      · rcases ih he with he | he
        · exact .inl he
        · exact .inr (List.mem_cons_of_mem first he)

theorem map_fst_modify (name : String) (change : PropertyValue → PropertyValue)
    (entries : List Entry) : (modify name change entries).map Prod.fst = entries.map Prod.fst := by
  induction entries with
  | nil => rfl
  | cons e rest ih =>
    unfold modify
    split
    · rfl
    · rw [List.map_cons, List.map_cons, ih]

end Entries

namespace Bag

theorem contains_of_mem {bag : Bag} {e : Entry} (he : e ∈ bag.entries) :
    bag.contains e.1 = true :=
  (bag.contains_iff e.1).mpr (List.mem_map_of_mem he)

theorem names_modify (bag : Bag) (name : String) (change : PropertyValue → PropertyValue) :
    (bag.modify name change).names = bag.names :=
  Entries.map_fst_modify name change bag.entries

theorem names_mapValues (bag : Bag) (change : PropertyValue → PropertyValue) :
    (bag.mapValues change).names = bag.names := by
  simp [names, mapValues]

end Bag

namespace Event

/-! ## The parts of an event -/

/-- An event without its properties and without what is held back. -/
def core (event : Event) : Event :=
  { event with properties := .empty, excluded := .empty }

@[simp] theorem core_put (event : Event) (name : String) (value : PropertyValue) :
    (event.put name value).core = event.core := rfl

@[simp] theorem core_exclude (event : Event) (name : String) :
    (event.exclude name).core = event.core := by
  rw [exclude_eq]
  split <;> rfl

@[simp] theorem core_readmit (event : Event) (name : String) :
    (Event.readmit event name).core = event.core := rfl

@[simp] theorem excludeAll_nil (event : Event) : event.excludeAll [] = event := rfl

theorem excludeAll_cons (event : Event) (name : String) (names : List String) :
    event.excludeAll (name :: names) = (event.exclude name).excludeAll names := rfl

theorem excludeAll_induction {motive : Event → Prop} (event : Event) (names : List String)
    (start : motive event) (step : ∀ event name, motive event → motive (event.exclude name)) :
    motive (event.excludeAll names) :=
  List.foldlRecOn names exclude start fun event h name _ => step event name h

theorem readmitAll_induction {motive : Event → Prop} (event : Event) (names : List String)
    (start : motive event) (step : ∀ event name, motive event → motive (Event.readmit event name)) :
    motive (event.readmitAll names) :=
  List.foldlRecOn names readmit start fun event h name _ => step event name h

@[simp] theorem core_excludeAll (event : Event) (names : List String) :
    (event.excludeAll names).core = event.core :=
  excludeAll_induction (motive := fun e => e.core = event.core) event names rfl
    fun e name h => (core_exclude e name).trans h

@[simp] theorem properties_excludeAll (event : Event) (names : List String) :
    (event.excludeAll names).properties = event.properties :=
  excludeAll_induction (motive := fun e => e.properties = event.properties) event names rfl
    fun e name h => (properties_exclude e name).trans h

@[simp] theorem core_readmitAll (event : Event) (names : List String) :
    (event.readmitAll names).core = event.core :=
  readmitAll_induction (motive := fun e => e.core = event.core) event names rfl fun _ _ h => h

@[simp] theorem properties_readmitAll (event : Event) (names : List String) :
    (event.readmitAll names).properties = event.properties :=
  readmitAll_induction (motive := fun e => e.properties = event.properties) event names rfl
    fun _ _ h => h

/-! ## Holding back -/

theorem isExcluded_congr (event : Event) {a b : String} (h : fold a = fold b) :
    event.isExcluded a = event.isExcluded b :=
  event.excluded.contains_congr h

/-- Excluding a property holds back its name, and that of its raw text if there is one. -/
theorem isExcluded_exclude (event : Event) (name other : String) :
    (event.exclude name).isExcluded other =
      (event.isExcluded other ||
        event.properties.contains name && (sameName name other ||
          event.properties.contains (Naming.rawName name) &&
            sameName (Naming.rawName name) other)) := by
  rw [exclude_eq]
  unfold isExcluded
  cases event.properties.contains name with
  | false => simp
  | true =>
    cases hr : event.properties.contains (Naming.rawName name) with
    | false => simp [hr, NameSet.contains_insert]
    | true =>
      simp only [hr, if_true, NameSet.contains_insert, Bool.true_and]
      rw [Bool.or_assoc, Bool.or_comm (sameName (Naming.rawName name) other)]

theorem isExcluded_exclude_mono {event : Event} {name other : String}
    (h : event.isExcluded other = true) : (event.exclude name).isExcluded other = true := by
  rw [isExcluded_exclude, h, Bool.true_or]

theorem isExcluded_excludeAll_mono {event : Event} (names : List String) {other : String}
    (h : event.isExcluded other = true) : (event.excludeAll names).isExcluded other = true :=
  excludeAll_induction (motive := fun e => e.isExcluded other = true) event names h
    fun _ _ he => isExcluded_exclude_mono he

theorem isExcluded_excludeAll_of_mem {event : Event} {names : List String} {name : String}
    (hm : name ∈ names) (hb : event.properties.contains name = true) :
    (event.excludeAll names).isExcluded name = true := by
  induction names generalizing event with
  | nil => exact absurd hm List.not_mem_nil
  | cons first rest ih =>
    rw [excludeAll_cons]
    rcases List.mem_cons.mp hm with rfl | hm
    · refine isExcluded_excludeAll_mono rest ?_
      rw [isExcluded_exclude, hb, sameName_refl, Bool.true_or, Bool.true_and, Bool.or_true]
    · exact ih hm (by rw [properties_exclude]; exact hb)

/-! ## What is sent -/

theorem mem_sent {event : Event} {e : Entry} :
    e ∈ event.sent ↔ e ∈ event.properties.entries ∧ event.isExcluded e.1 = false := by
  simp [sent, List.mem_filter]

theorem sent_subset {a b : Event} (hprops : b.properties = a.properties)
    (hexcl : ∀ name, a.isExcluded name = true → b.isExcluded name = true) {e : Entry}
    (he : e ∈ b.sent) : e ∈ a.sent := by
  rw [mem_sent] at he ⊢
  refine ⟨hprops ▸ he.1, ?_⟩
  cases h : a.isExcluded e.1 with
  | false => rfl
  | true => rw [hexcl e.1 h] at he; exact absurd he.2 (by decide)

theorem mem_sent_of_excludeAll {event : Event} {names : List String} {e : Entry}
    (he : e ∈ (event.excludeAll names).sent) : e ∈ event.sent :=
  sent_subset (properties_excludeAll event names)
    (fun _ h => isExcluded_excludeAll_mono names h) he

theorem mem_sent_of_put {event : Event} {name : String} {value : PropertyValue} {e : Entry}
    (he : e ∈ (event.put name value).sent) : e = (name, value) ∨ e ∈ event.sent := by
  rw [mem_sent] at he ⊢
  rcases Entries.mem_insert he.1 with h | h
  · exact .inl h
  · exact .inr ⟨h, he.2⟩

def SendsOnly (allowed : String → Prop) (event : Event) : Prop :=
  ∀ e ∈ event.sent, allowed e.1

theorem mem_sent_names {a b : Event} (hnames : b.properties.names = a.properties.names)
    (hexcl : b.excluded = a.excluded) {e : Entry} (he : e ∈ b.sent) :
    ∃ e' ∈ a.sent, e'.1 = e.1 := by
  rw [mem_sent] at he
  have hmem : e.1 ∈ a.properties.names := hnames ▸ List.mem_map_of_mem he.1
  obtain ⟨e', he', heq⟩ := List.mem_map.mp hmem
  refine ⟨e', mem_sent.mpr ⟨he', ?_⟩, heq⟩
  rw [heq, isExcluded, ← hexcl]
  exact he.2

namespace SendsOnly

variable {allowed : String → Prop} {event : Event}

theorem of_subset {other : Event} (h : event.SendsOnly allowed)
    (hsub : ∀ e ∈ other.sent, ∃ e' ∈ event.sent, e'.1 = e.1) : other.SendsOnly allowed := by
  intro e he
  obtain ⟨e', he', heq⟩ := hsub e he
  exact heq ▸ h e' he'

theorem excludeAll (h : event.SendsOnly allowed) (names : List String) :
    (event.excludeAll names).SendsOnly allowed :=
  fun e he => h e (mem_sent_of_excludeAll he)

theorem put (h : event.SendsOnly allowed) {name : String}
    (hname : event.isExcluded name = false → allowed name) (value : PropertyValue) :
    (event.put name value).SendsOnly allowed := by
  intro e he
  rcases mem_sent_of_put he with rfl | hsent
  · exact hname (mem_sent.mp he).2
  · exact h e hsent

theorem erase (h : event.SendsOnly allowed) (name : String) :
    Event.SendsOnly allowed { event with properties := event.properties.erase name } := by
  intro e he
  have hmem := (Entries.erase_sublist name event.properties.entries).subset (mem_sent.mp he).1
  exact h e (mem_sent.mpr ⟨hmem, (mem_sent.mp he).2⟩)

theorem of_names {other : Event} (h : event.SendsOnly allowed)
    (hnames : other.properties.names = event.properties.names)
    (hexcl : other.excluded = event.excluded) : other.SendsOnly allowed :=
  h.of_subset fun _ he => mem_sent_names hnames hexcl he

theorem mono {other : String → Prop} (h : event.SendsOnly allowed)
    (himp : ∀ name, allowed name → other name) : event.SendsOnly other :=
  fun e he => himp e.1 (h e he)

end SendsOnly

end Event

/-! ## Rules that change properties one after another -/

namespace ManifestStage

theorem changeBy_induction {motive : Event → Prop} (change : Event → List String → Event)
    (rules : List (Guarded (List String))) (event : Event) (start : motive event)
    (step : ∀ event names, motive event → motive (change event names)) :
    motive (changeBy change event rules) := by
  refine List.foldlRecOn rules _ start fun event h rule _ => ?_
  split
  · exact step event rule.payload h
  · exact h

/-- What each exclusion and each readmission keeps, the rules for properties keep. -/
theorem filtered_induction {motive : Event → Prop} (rules : OptOutRules) (event : Event)
    (start : motive event) (exclude : ∀ event name, motive event → motive (event.exclude name))
    (free : ∀ event name, motive event → motive (Event.readmit event name)) :
    motive (filtered rules event) := by
  have hallowed : motive (changeBy Event.readmitAll event rules.allowedProperties) :=
    changeBy_induction Event.readmitAll rules.allowedProperties event start
      fun event names h => Event.readmitAll_induction event names h free
  exact changeBy_induction Event.excludeAll rules.deniedProperties _ hallowed
    fun event names h => Event.excludeAll_induction event names h exclude

@[simp] theorem core_filtered (rules : OptOutRules) (event : Event) :
    (filtered rules event).core = event.core :=
  filtered_induction (motive := fun e => e.core = event.core) rules event rfl
    (fun e name h => (Event.core_exclude e name).trans h) (fun _ _ h => h)

@[simp] theorem properties_filtered (rules : OptOutRules) (event : Event) :
    (filtered rules event).properties = event.properties :=
  filtered_induction (motive := fun e => e.properties = event.properties) rules event rfl
    (fun e name h => (Event.properties_exclude e name).trans h) (fun _ _ h => h)

theorem names_markedBag (rules : List (Guarded (List String))) (event : Event) :
    (markedBag rules event).names = event.properties.names :=
  List.foldlRecOn (motive := fun bag : Bag => bag.names = event.properties.names)
    (namesBy rules event) _ rfl fun bag h name _ => (bag.names_modify name marked).trans h

end ManifestStage

/-! ## Hashing -/

namespace Personal

variable {hash : String → String} {attach : Bool}

/-- An event whose value under a name is replaced by its digest, with the raw text beside it if it
is wanted and the property is sent. -/
def replaced (hash : String → String) (attach : Bool) (event : Event) (name text : String) :
    Event :=
  if attach && !event.isExcluded name then
    (event.put name (.text (hash text))).put (Naming.rawName name) (.text text)
  else event.put name (.text (hash text))

/-- All that hashing one property can do. -/
theorem hashOne_cases (hash : String → String) (attach : Bool) (event : Event) (count : Nat)
    (name : String) :
    event.properties.get? name = none ∧
        hashOne hash attach (event, count) name = (event, count) ∨
      (∃ value fault, event.properties.get? name = some value ∧
        value.invariantText = .error fault ∧
        hashOne hash attach (event, count) name =
          ({ event with properties := event.properties.erase name }, count)) ∨
      ∃ value text, event.properties.get? name = some value ∧ value.invariantText = .ok text ∧
        hashOne hash attach (event, count) name =
          (replaced hash attach event name text, count + 1) := by
  cases hv : event.properties.get? name with
  | none => exact .inl ⟨rfl, by simp [hashOne, hv]⟩
  | some value =>
    cases ht : value.invariantText with
    | error fault => exact .inr (.inl ⟨value, fault, rfl, ht, by simp [hashOne, hv, ht]⟩)
    | ok text =>
      refine .inr (.inr ⟨value, text, rfl, ht, ?_⟩)
      cases ha : attach && !event.isExcluded name <;> simp [hashOne, replaced, hv, ht, ha]

theorem hashOne_parts (hash : String → String) (attach : Bool) (state : Event × Nat)
    (name : String) :
    (hashOne hash attach state name).1.core = state.1.core ∧
      (hashOne hash attach state name).1.excluded = state.1.excluded := by
  obtain ⟨event, count⟩ := state
  rcases hashOne_cases hash attach event count name with
    ⟨-, h⟩ | ⟨value, fault, -, -, h⟩ | ⟨value, text, -, -, h⟩
  · rw [h]
    exact ⟨rfl, rfl⟩
  · rw [h]
    exact ⟨rfl, rfl⟩
  · rw [h, replaced]
    split <;> exact ⟨rfl, rfl⟩

theorem hashAllWith_parts (hash : String → String) (session : Session) (event : Event) :
    (hashAllWith hash session event).1.core = event.core ∧
      (hashAllWith hash session event).1.excluded = event.excluded :=
  List.foldlRecOn (motive := fun state : Event × Nat =>
      state.1.core = event.core ∧ state.1.excluded = event.excluded)
    (names event) _ ⟨rfl, rfl⟩ fun state h name _ =>
      ⟨(hashOne_parts hash _ state name).1.trans h.1, (hashOne_parts hash _ state name).2.trans h.2⟩

/-- Whether a name is that of the raw text which hashing puts beside a property that is sent. -/
def IsCompanion (session : Session) (event : Event) (name : String) : Prop :=
  session.collectsPrivate = true ∧
    ∃ own ∈ names event, event.isExcluded own = false ∧ name = Naming.rawName own

/-- Hashing adds to the names that are sent only those of raw texts. -/
theorem sendsOnly_hashAllWith {allowed : String → Prop} (hash : String → String)
    (session : Session) {event : Event} (h : event.SendsOnly allowed) :
    (hashAllWith hash session event).1.SendsOnly fun name =>
      allowed name ∨ IsCompanion session event name := by
  have hown : ∀ name ∈ names event, event.isExcluded name = false → allowed name := by
    intro name hname hexcl
    obtain ⟨e, he, rfl⟩ := List.mem_map.mp hname
    exact h e (Event.mem_sent.mpr ⟨(List.mem_filter.mp he).1, hexcl⟩)
  refine (List.foldlRecOn (motive := fun state : Event × Nat =>
    state.1.excluded = event.excluded ∧ state.1.SendsOnly fun name =>
      allowed name ∨ IsCompanion session event name) (names event) _
    ⟨rfl, h.mono fun _ ha => .inl ha⟩ fun state hstate name hname => ?_).2
  refine ⟨(hashOne_parts hash _ state name).2.trans hstate.1, ?_⟩
  obtain ⟨current, count⟩ := state
  obtain ⟨hexcl, hsends⟩ := hstate
  rcases hashOne_cases hash session.collectsPrivate current count name with
    ⟨-, heq⟩ | ⟨value, fault, -, -, heq⟩ | ⟨value, text, -, -, heq⟩
  · rw [heq]
    exact hsends
  · rw [heq]
    exact hsends.erase name
  · have hkept : event.isExcluded name = current.isExcluded name := by
      rw [Event.isExcluded, Event.isExcluded, hexcl]
    have hput : (current.put name (.text (hash text))).SendsOnly fun name =>
        allowed name ∨ IsCompanion session event name :=
      hsends.put (fun hn => .inl (hown name hname (hkept.trans hn))) _
    rw [heq, replaced]
    split
    next hraw =>
      rw [Bool.and_eq_true, Bool.not_eq_true'] at hraw
      exact hput.put (fun _ => .inr ⟨hraw.1, name, hname, hkept.trans hraw.2, rfl⟩) (.text text)
    next => exact hput

end Personal

end EventGate
