import EventGate.Json.Access
import EventGate.Proofs.Numbers
import EventGate.Proofs.RuleParts

/-! # The grammar of rules

Which JSON values write down a rule that can be used. Each kind of part has its keys in an order,
and the first key that the object has decides what must stand there. Reading and checking a value
accepts exactly the values of this grammar.
-/

namespace EventGate

/-! ## The first key -/

namespace Json

/-- The first of some keys that an object has, and what it holds there. -/
def first? (keys : List String) (raw : Json) : Option (String × Json) :=
  keys.findSome? fun key => (raw.get? key).map fun value => (key, value)

/-- An object has one of the keys, and at the first one it has stands what is allowed there. -/
def Follows (keys : List String) (allowed : String → Json → Prop) (raw : Json) : Prop :=
  ∃ key value, raw.first? keys = some (key, value) ∧ allowed key value

variable {raw : Json} {key : String}

theorem follows_nil (allowed : String → Json → Prop) : ¬ raw.Follows [] allowed := by
  rintro ⟨key, value, h, -⟩
  exact nomatch h

theorem follows_cons_of_some {value : Json} (h : raw.get? key = some value) (keys : List String)
    (allowed : String → Json → Prop) : raw.Follows (key :: keys) allowed ↔ allowed key value := by
  have hfirst : raw.first? (key :: keys) = some (key, value) := by
    rw [first?, List.findSome?_cons, h, Option.map_some]
  rw [Follows, hfirst]
  constructor
  · rintro ⟨k, v, ⟨⟩, hallowed⟩
    exact hallowed
  · exact fun hallowed => ⟨key, value, rfl, hallowed⟩

theorem follows_cons_of_none (h : raw.get? key = none) (keys : List String)
    (allowed : String → Json → Prop) :
    raw.Follows (key :: keys) allowed ↔ raw.Follows keys allowed := by
  have hfirst : raw.first? (key :: keys) = raw.first? keys := by
    rw [first?, List.findSome?_cons, h, Option.map_none]
    rfl
  rw [Follows, hfirst]
  rfl

theorem exists_map_iff {α β : Type} {p : α → Prop} {build : β → α} {read : Option β} :
    (∃ a, read.map build = some a ∧ p a) ↔ ∃ b, read = some b ∧ p (build b) := by
  cases read <;> simp

/-- What is taken by its first key has a property exactly if what stands there gives one that
has it. -/
theorem getD_firstMember?_iff {α : Type} {p : α → Prop} {unknown : α}
    (hunknown : ¬ p unknown) {allowed : String → Json → Prop}
    {takes : List (String × (Json → Option α))}
    (htake : ∀ entry ∈ takes, ∀ value, raw.get? entry.1 = some value →
      ((∃ a, entry.2 value = some a ∧ p a) ↔ allowed entry.1 value)) :
    p ((raw.firstMember? takes).getD unknown) ↔
      raw.Follows (takes.map Prod.fst) allowed := by
  induction takes with
  | nil => exact iff_of_false hunknown (follows_nil allowed)
  | cons entry rest ih =>
    obtain ⟨hentry, hrest⟩ := List.forall_mem_cons.mp htake
    rw [firstMember?, List.map_cons]
    cases hget : raw.get? entry.1 with
    | none =>
      rw [follows_cons_of_none hget]
      exact ih hrest
    | some value =>
      rw [follows_cons_of_some hget, ← hentry value hget]
      dsimp only
      cases entry.2 value with
      | none => simpa using hunknown
      | some a => simp

theorem sizeOf_lt_of_get? {value : Json} (h : raw.get? key = some value) :
    sizeOf value < sizeOf raw := by
  cases raw with
  | object members =>
    have hsize : ∀ members : List (String × Json), members.lookup key = some value →
        sizeOf value < sizeOf members := by
      intro members
      induction members with
      | nil => exact nofun
      | cons m rest ih =>
        obtain ⟨k, v⟩ := m
        rw [List.lookup_cons]
        intro hlookup
        simp only [List.cons.sizeOf_spec, Prod.mk.sizeOf_spec]
        cases hkey : key == k with
        | true =>
          rw [hkey] at hlookup
          cases hlookup
          omega
        | false =>
          rw [hkey] at hlookup
          have hrest := ih hlookup
          omega
    have hlt := hsize members h
    simp only [object.sizeOf_spec]
    omega
  | _ => exact nomatch h

end Json

/-! ## Comparisons -/

namespace Comparison

def keys : List String :=
  ["eq", "lt", "gt", "exists", "startsWith", "endsWith", "contains"]

def IsOperand (key : String) (value : Json) : Prop :=
  match key with
  | "eq" => ∃ s, value = .string s
  | "lt" | "gt" => ∃ n : JsonNumber, value = .number n ∧ n.toBinary.isFinite = true
  | "exists" => value = .bool true
  | "startsWith" | "endsWith" | "contains" => ∃ s, value = .string s ∧ s ≠ ""
  | _ => False

theorem isOperand_number {key : String} (hkey : key = "lt" ∨ key = "gt") {n : JsonNumber}
    (h : n.Fits) : IsOperand key (.number n) := by
  rcases hkey with rfl | rfl <;> exact ⟨n, rfl, h.isFinite_toBinary⟩

def IsWritten (raw : Json) : Prop :=
  raw.Follows keys IsOperand

theorem check_ofJson_eq_ok_iff (raw : Json) : (ofJson raw).check = .ok () ↔ IsWritten raw := by
  have hunknown : ¬ (unknown raw).check = .ok () := by simp [check]
  refine Json.getD_firstMember?_iff (p := fun a => check a = .ok ()) hunknown ?_
  simp only [List.forall_mem_cons, List.not_mem_nil, false_implies, implies_true, and_true,
    Json.exists_map_iff]
  refine ⟨?eq, ?lt, ?gt, ?present, ?startsWith, ?endsWith, ?contains⟩ <;> intro value _
  case eq => cases value <;> simp [Json.string?, check, IsOperand]
  case lt | gt => cases value <;> simp [Json.binary?, check, IsOperand]
  case present => cases value <;> simp [Json.bool?, check, IsOperand]
  case startsWith | endsWith | contains =>
    cases value <;> simp [Json.string?, check, IsOperand]

end Comparison

/-! ## Routes -/

namespace RouteArgument

def keys : List String :=
  ["datapointId", "streamId", "propertyName"]

def IsOperand (key : String) (value : Json) : Prop :=
  match key with
  | "datapointId" | "streamId" =>
    ∃ n : UInt64, value = .number (.whole n.toNat) ∧ n ≠ 0
  | "propertyName" => ∃ s, value = .string s ∧ s ≠ ""
  | _ => False

def IsWritten (raw : Json) : Prop :=
  raw.Follows keys IsOperand

theorem check_ofJson_eq_ok_iff (raw : Json) : (ofJson raw).check = .ok () ↔ IsWritten raw := by
  have hunknown : ¬ (unknown raw).check = .ok () := by simp [check]
  refine Json.getD_firstMember?_iff (p := fun a => check a = .ok ()) hunknown ?_
  simp only [List.forall_mem_cons, List.not_mem_nil, false_implies, implies_true, and_true,
    Json.exists_map_iff]
  refine ⟨?datapoint, ?stream, ?property⟩ <;> intro value _
  case datapoint | stream =>
    cases value <;> simp [Json.natural?, JsonNumber.natural?_eq_some_iff, check, IsOperand]
  case property => cases value <;> simp [Json.string?, check, IsOperand]

end RouteArgument

namespace RouteTarget

/-- The value writes down a target: a channel, and what it is told. -/
structure IsWritten (raw : Json) : Prop where
  channel : ∃ id, raw.get? "channelId" = some (.string id) ∧ id ≠ ""
  argument : ∃ args, raw.get? "args" = some args ∧ RouteArgument.IsWritten args

theorem passes_ofJson_iff (raw : Json) : (ofJson raw).Passes ↔ IsWritten raw := by
  have hchannel : (ofJson raw).check = .ok () ↔
      ∃ id, raw.get? "channelId" = some (.string id) ∧ id ≠ "" := by
    rw [check, ofJson]
    rcases raw.get? "channelId" with _ | value
    · simp
    · cases value <;> simp [Json.string?]
  have hargument : (ofJson raw).argument.check = .ok () ↔
      ∃ args, raw.get? "args" = some args ∧ RouteArgument.IsWritten args := by
    rw [ofJson]
    rcases raw.get? "args" with _ | args
    · simp [RouteArgument.check]
    · simp [RouteArgument.check_ofJson_eq_ok_iff]
  rw [Passes, hchannel, hargument]
  exact ⟨fun h => ⟨h.1, h.2⟩, fun h => ⟨h.channel, h.argument⟩⟩

end RouteTarget

/-! ## Conditions -/

namespace Condition

def keys : List String :=
  ["and", "or", "not", "property"]

inductive IsWritten : Json → Prop
  | clause {raw : Json} {key : String} {items : List Json}
      (hfirst : raw.first? keys = some (key, .array items)) (hkey : key = "and" ∨ key = "or")
      (hne : items ≠ []) (hitems : ∀ item ∈ items, IsWritten item) : IsWritten raw
  | not {raw part : Json} (hfirst : raw.first? keys = some ("not", part))
      (hpart : IsWritten part) : IsWritten raw
  | property {raw value : Json} {name : String}
      (hfirst : raw.first? keys = some ("property", .string name)) (hne : name ≠ "")
      (hvalue : raw.get? "value" = some value) (hwritten : Comparison.IsWritten value) :
      IsWritten raw

def IsOperand (raw : Json) (key : String) (value : Json) : Prop :=
  match key with
  | "and" | "or" => ∃ items, value = .array items ∧ items ≠ [] ∧ ∀ item ∈ items, IsWritten item
  | "not" => IsWritten value
  | "property" =>
    (∃ name, value = .string name ∧ name ≠ "") ∧
      ∃ operand, raw.get? "value" = some operand ∧ Comparison.IsWritten operand
  | _ => False

theorem isWritten_iff_follows {raw : Json} :
    IsWritten raw ↔ raw.Follows keys (IsOperand raw) := by
  constructor
  · intro h
    cases h with
    | clause hfirst hkey hne hitems =>
      refine ⟨_, _, hfirst, ?_⟩
      rcases hkey with rfl | rfl <;> exact ⟨_, rfl, hne, hitems⟩
    | not hfirst hpart => exact ⟨_, _, hfirst, hpart⟩
    | property hfirst hne hvalue hwritten =>
      exact ⟨_, _, hfirst, ⟨_, rfl, hne⟩, _, hvalue, hwritten⟩
  · rintro ⟨key, value, hfirst, h⟩
    unfold IsOperand at h
    split at h
    · obtain ⟨items, rfl, hne, hitems⟩ := h
      exact .clause hfirst (.inl rfl) hne hitems
    · obtain ⟨items, rfl, hne, hitems⟩ := h
      exact .clause hfirst (.inr rfl) hne hitems
    · exact .not hfirst h
    · obtain ⟨⟨name, rfl, hne⟩, operand, hvalue, hwritten⟩ := h
      exact .property hfirst hne hvalue hwritten
    · exact h.elim

theorem IsWritten.isObject {raw : Json} (h : IsWritten raw) : raw.isObject = true := by
  obtain ⟨key, value, hfirst, -⟩ := isWritten_iff_follows.mp h
  cases raw with
  | object members => rfl
  | _ => exact nomatch hfirst

/-! ### How a condition is read -/

theorem ofItems_eq_map (items : List Json) : ofItems items = items.map ofJson := by
  induction items with
  | nil => rw [ofItems, List.map_nil]
  | cons item rest ih => rw [ofItems, ih, List.map_cons]

theorem listUnder_eq (key : String) (members : List (String × Json)) :
    listUnder key members =
      (members.lookup key).map fun value => value.items?.map fun items => items.map ofJson := by
  induction members with
  | nil => rw [listUnder, List.lookup_nil, Option.map_none]
  | cons m rest ih =>
    obtain ⟨k, value⟩ := m
    cases hkey : key == k with
    | true => cases value <;> simp [listUnder, hkey, List.lookup_cons, Json.items?, ofItems_eq_map]
    | false => cases value <;> simp [listUnder, hkey, List.lookup_cons, ih]

theorem objectUnder_eq (key : String) (members : List (String × Json)) :
    objectUnder key members =
      (members.lookup key).map fun value =>
        if value.isObject then some (ofJson value) else none := by
  induction members with
  | nil => rw [objectUnder, List.lookup_nil, Option.map_none]
  | cons m rest ih =>
    obtain ⟨k, value⟩ := m
    cases hkey : key == k with
    | true => cases hobject : value.isObject <;> simp [objectUnder, hkey, List.lookup_cons, hobject]
    | false => simp [objectUnder, hkey, List.lookup_cons, ih]

/-- A condition is read by its first key, as the other parts of a rule are. -/
theorem ofJson_eq (raw : Json) :
    ofJson raw =
      (raw.firstMember? [
        ("and", fun value => value.items?.map fun items => all (items.map ofJson)),
        ("or", fun value => value.items?.map fun items => any (items.map ofJson)),
        ("not", fun value => if value.isObject then some (not (ofJson value)) else none),
        ("property", fun value => value.string?.bind fun name =>
          (raw.get? "value").map fun operand => property name (.ofJson operand))]).getD
        (unknown raw) := by
  cases raw with
  | object members =>
    rw [ofJson, listUnder_eq, listUnder_eq, objectUnder_eq]
    simp only [Json.firstMember?, Json.get?]
    cases members.lookup "and" with
    | some value => simp [Function.comp_def]
    | none =>
      cases members.lookup "or" with
      | some value => simp [Function.comp_def]
      | none =>
        cases members.lookup "not" with
        | some value => cases hobject : value.isObject <;> simp [hobject]
        | none =>
          cases members.lookup "property" with
          | none => simp
          | some value =>
            cases value with
            | string name => cases members.lookup "value" <;> simp [Json.string?]
            | _ => simp [Json.string?]
  | _ =>
    rw [ofJson]
    · rfl
    · intro members h
      cases h

/-- A clause is usable exactly if its items are those of a clause of the grammar. -/
theorem passes_items_iff {build : List Condition → Condition}
    (hbuild : ∀ parts, (build parts).Passes ↔ parts ≠ [] ∧ ∀ part ∈ parts, part.Passes)
    {value : Json}
    (hitems : ∀ items, value = .array items →
      ∀ item ∈ items, ((ofJson item).Passes ↔ IsWritten item)) :
    (∃ items, value.items? = some items ∧ (build (items.map ofJson)).Passes) ↔
      ∃ items, value = .array items ∧ items ≠ [] ∧ ∀ item ∈ items, IsWritten item := by
  cases value with
  | array items =>
    have hparts : (∀ item ∈ items, (ofJson item).Passes) ↔ ∀ item ∈ items, IsWritten item :=
      forall₂_congr (hitems items rfl)
    simp [Json.items?, hbuild, hparts]
  | _ => simp [Json.items?]

/-- Reading and checking accepts exactly the conditions of the grammar. -/
theorem passes_ofJson_iff (raw : Json) : (ofJson raw).Passes ↔ IsWritten raw := by
  have hitem {key : String} {value : Json} (hget : raw.get? key = some value) (items : List Json)
      (harray : value = .array items) (item : Json) (hmem : item ∈ items) :
      (ofJson item).Passes ↔ IsWritten item := by
    subst harray
    have hsmaller : sizeOf item < sizeOf raw := by
      have hvalue := Json.sizeOf_lt_of_get? hget
      have hitems := List.sizeOf_lt_of_mem hmem
      simp only [Json.array.sizeOf_spec] at hvalue
      omega
    exact passes_ofJson_iff item
  rw [ofJson_eq, isWritten_iff_follows]
  refine Json.getD_firstMember?_iff (not_passes_unknown raw) ?_
  simp only [List.forall_mem_cons, List.not_mem_nil, false_implies, implies_true, and_true,
    Json.exists_map_iff]
  refine ⟨?all, ?any, ?not, ?property⟩ <;> intro value hget
  case all => exact passes_items_iff (fun _ => passes_all_iff) (hitem hget)
  case any => exact passes_items_iff (fun _ => passes_any_iff) (hitem hget)
  case not =>
    have hsmaller : sizeOf value < sizeOf raw := Json.sizeOf_lt_of_get? hget
    have hpart : (ofJson value).Passes ↔ IsWritten value := passes_ofJson_iff value
    have hobject : IsWritten value → value.isObject = true := IsWritten.isObject
    cases hvalue : value.isObject with
    | true => simp [IsOperand, passes_not_iff, hpart]
    | false =>
      have hnot : ¬ IsWritten value := fun h => by simp [hobject h] at hvalue
      simp [IsOperand, hnot]
  case property =>
    have hcomparison : ∀ operand, (Comparison.ofJson operand).check = .ok () ↔
        Comparison.IsWritten operand := Comparison.check_ofJson_eq_ok_iff
    cases value with
    | string name =>
      cases hvalue : raw.get? "value" <;>
        simp [Json.string?, IsOperand, hvalue, passes_property_iff, hcomparison]
    | _ => simp [Json.string?, IsOperand]
termination_by sizeOf raw

end Condition

/-! ## Rules -/

namespace Effect

def keys : List String :=
  ["excludeForChannels", "route", "optOutIncludeEvents", "optOutExcludeEvents",
    "optOutIncludeProperties", "optOutExcludeProperties", "throttle", "doNotThrottle",
    "piiProperties"]

def IsNames (names : List String) (value : Json) : Prop :=
  value = .ofTexts names ∧ ∀ name ∈ names, name ≠ ""

def IsPayload (key : String) (value : Json) : Prop :=
  match key with
  | "excludeForChannels" => ∃ channels, IsNames channels value
  | "route" =>
    ∃ targets, value = .array targets ∧ targets ≠ [] ∧
      ∀ target ∈ targets, RouteTarget.IsWritten target
  | "optOutIncludeEvents" | "optOutExcludeEvents" | "optOutIncludeProperties"
  | "optOutExcludeProperties" | "piiProperties" => ∃ names, names ≠ [] ∧ IsNames names value
  | "throttle" | "doNotThrottle" => value = .bool true
  | _ => False

theorem mapM_string?_eq_some_iff {items : List Json} {names : List String} :
    items.mapM Json.string? = some names ↔ items = names.map .string := by
  induction items generalizing names with
  | nil => cases names <;> simp
  | cons item rest ih =>
    cases names with
    | nil => cases item <;> simp [Json.string?, Option.bind_eq_some_iff]
    | cons name names =>
      have hitem : item.string? = some name ↔ item = .string name := by
        cases item <;> simp [Json.string?]
      simp only [List.mapM_cons, Option.bind_eq_bind, Option.bind_eq_some_iff, Option.pure_def,
        Option.some.injEq, List.cons.injEq, List.map_cons]
      constructor
      · rintro ⟨text, hfirst, texts, hrest, rfl, rfl⟩
        exact ⟨hitem.mp hfirst, ih.mp hrest⟩
      · rintro ⟨hfirst, hrest⟩
        exact ⟨name, hitem.mpr hfirst, names, ih.mpr hrest, rfl, rfl⟩

theorem strings?_eq_some_iff {value : Json} {names : List String} :
    value.strings? = some names ↔ value = .ofTexts names := by
  cases value with
  | array items => simp [Json.strings?, Json.items?, Json.ofTexts, mapM_string?_eq_some_iff]
  | _ => simp [Json.strings?, Json.items?, Json.ofTexts]

theorem not_passes_unknown (raw : Json) : ¬ (unknown raw).Passes :=
  fun h => nomatch h.own

/-- An effect without targets is usable exactly if it passes its own check. -/
theorem passes_iff_of_no_targets {effect : Effect} (h : ∀ targets, effect ≠ route targets) :
    effect.Passes ↔ effect.check = .ok () :=
  ⟨fun hpasses => hpasses.own, fun hown => ⟨hown, fun targets heq => absurd heq (h targets)⟩⟩

theorem passes_route_iff {targets : List RouteTarget} :
    (route targets).Passes ↔ targets ≠ [] ∧ ∀ target ∈ targets, target.Passes := by
  have hown : (route targets).check = .ok () ↔ targets ≠ [] := by
    cases targets <;> simp [check]
  constructor
  · intro h
    exact ⟨hown.mp h.own, h.targets targets rfl⟩
  · rintro ⟨hne, htargets⟩
    refine ⟨hown.mpr hne, ?_⟩
    rintro others ⟨⟩
    exact htargets

theorem any_isEmpty_eq_false_iff {names : List String} :
    names.any String.isEmpty = false ↔ ∀ name ∈ names, name ≠ "" := by
  rw [List.any_eq_false]
  exact forall₂_congr fun name _ => not_congr String.isEmpty_iff

theorem checkNames_eq_ok_iff {key : String} {names : List String} :
    checkNames key names = .ok () ↔ names ≠ [] ∧ ∀ name ∈ names, name ≠ "" := by
  rw [← any_isEmpty_eq_false_iff, checkNames]
  cases names with
  | nil => simp
  | cons name rest => cases (name :: rest).any String.isEmpty <;> simp

theorem checkFlag_eq_ok_iff {key : String} {flag : Bool} :
    checkFlag key flag = .ok () ↔ flag = true := by
  cases flag <;> simp [checkFlag]

/-- Reading and checking accepts exactly the payloads of the grammar. -/
theorem passes_ofJson_iff (raw : Json) : (ofJson raw).Passes ↔ raw.Follows keys IsPayload := by
  refine Json.getD_firstMember?_iff (not_passes_unknown raw) ?_
  simp only [List.forall_mem_cons, List.not_mem_nil, false_implies, implies_true, and_true,
    Json.exists_map_iff]
  refine ⟨?exclude, ?route, ?allowEvents, ?denyEvents, ?allowProperties, ?denyProperties,
    ?throttle, ?doNotThrottle, ?markPersonal⟩ <;> intro value _
  case exclude =>
    have hown (channels : List String) :
        (excludeFrom channels).Passes ↔ ∀ channel ∈ channels, channel ≠ "" := by
      rw [passes_iff_of_no_targets (fun _ => Effect.noConfusion), check,
        ← any_isEmpty_eq_false_iff]
      cases channels.any String.isEmpty <;> simp
    simp only [strings?_eq_some_iff, hown]
    rfl
  case route =>
    cases value with
    | array items =>
      simp [Json.items?, passes_route_iff, RouteTarget.passes_ofJson_iff, IsPayload]
    | _ => simp [Json.items?, IsPayload]
  case throttle | doNotThrottle =>
    cases value <;>
      simp [Json.bool?, passes_iff_of_no_targets, check, checkFlag_eq_ok_iff, IsPayload]
  all_goals
    simp [strings?_eq_some_iff, passes_iff_of_no_targets, check, checkNames_eq_ok_iff, IsPayload,
      IsNames, and_left_comm]

end Effect

namespace Action

/-- The value writes down a rule: a condition, if there is one, and the payload of an effect. -/
structure IsWritten (raw : Json) : Prop where
  condition : ∀ value, raw.get? "when" = some value → Condition.IsWritten value
  effect : raw.Follows Effect.keys Effect.IsPayload

/-- Reading and checking accepts exactly the rules of the grammar. -/
theorem accepts_exactly_the_grammar (raw : Json) :
    (ofJson raw).check = .ok () ↔ IsWritten raw := by
  have hcondition : (∀ condition, (ofJson raw).condition = some condition → condition.Passes) ↔
      ∀ value, raw.get? "when" = some value → Condition.IsWritten value := by
    rw [ofJson]
    cases raw.get? "when" with
    | none => simp
    | some value => simp [Condition.passes_ofJson_iff]
  have heffect : (ofJson raw).effect.Passes ↔ raw.Follows Effect.keys Effect.IsPayload :=
    Effect.passes_ofJson_iff raw
  rw [check_eq_ok_iff, hcondition, heffect]
  exact ⟨fun h => ⟨h.1, h.2⟩, fun h => ⟨h.condition, h.effect⟩⟩

end Action

end EventGate
