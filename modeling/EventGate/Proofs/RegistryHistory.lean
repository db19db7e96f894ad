import EventGate.Proofs.Admission
import EventGate.Proofs.ChannelRegistry

/-! # Registries and their histories

A registry is a map with folded ids as its keys. Of the calls on it only the accepted ones count,
and what stands after them is each channel that no later one of them names, in the order of the
calls.
-/

namespace EventGate.Registry

open Text

variable {κ : Type}

/-- A call on a registry. From call to call the session may change. -/
inductive Request (κ : Type) where
  | register (session : Session) (registration : Registration) (sink : κ)
  | unregister (id : String)

def serve (registry : Registry κ) : Request κ → Bool × Registry κ
  | .register session registration sink => registry.register session registration sink
  | .unregister id => registry.unregister id

def after (registry : Registry κ) (requests : List (Request κ)) : Registry κ :=
  requests.foldl (fun registry request => (registry.serve request).2) registry

/-! ## Histories -/

inductive Edit (κ : Type) where
  | put (channel : Channel κ)
  | remove (id : String)

def Edit.key : Edit κ → String
  | put channel => fold channel.id
  | remove id => fold id

def Edit.channel? : Edit κ → Option (Channel κ)
  | put channel => some channel
  | remove _ => none

/-- What a call does to the map if it is accepted. A channel is put in with the traits that the
validators leave it. -/
def Request.edit? (validators : List Validator) : Request κ → Option (Edit κ)
  | register session registration sink =>
    match Validator.rejectedBy session validators registration with
    | (none, admitted) => some (.put ⟨registration.id, admitted.traits, sink⟩)
    | (some _, _) => none
  | unregister id => some (.remove id)

def edits (validators : List Validator) (requests : List (Request κ)) : List (Edit κ) :=
  requests.filterMap (Request.edit? validators)

theorem edits_cons (validators : List Validator) (request : Request κ)
    (rest : List (Request κ)) :
    edits validators (request :: rest) =
      (request.edit? validators).toList ++ edits validators rest := by
  unfold edits
  cases h : request.edit? validators with
  | none => rw [List.filterMap_cons_none h, Option.toList, List.nil_append]
  | some edit => rw [List.filterMap_cons_some h, Option.toList, List.singleton_append]

/-- The channels that no later edit names. -/
def standing : List (Edit κ) → List (Channel κ)
  | [] => []
  | .remove _ :: later => standing later
  | .put channel :: later =>
    if fold channel.id ∈ later.map Edit.key then standing later else channel :: standing later

theorem standing_append_singleton (edits : List (Edit κ)) (edit : Edit κ) :
    standing (edits ++ [edit]) =
      ((standing edits).filter fun c => fold c.id != edit.key) ++
        edit.channel?.toList := by
  induction edits with
  | nil => cases edit <;> rfl
  | cons first later ih =>
    cases first with
    | remove id => exact ih
    | put channel =>
      rw [List.cons_append, standing, standing, ih]
      have hnamed : fold channel.id ∈ (later ++ [edit]).map Edit.key ↔
          fold channel.id ∈ later.map Edit.key ∨ fold channel.id = edit.key := by
        rw [List.map_append, List.mem_append, List.map_singleton, List.mem_singleton]
      by_cases hlater : fold channel.id ∈ later.map Edit.key
      · rw [if_pos hlater, if_pos (hnamed.mpr (.inl hlater))]
      · rw [if_neg hlater]
        by_cases hkey : fold channel.id = edit.key
        · rw [if_pos (hnamed.mpr (.inr hkey)), List.filter_cons_of_neg (by simp [hkey])]
        · rw [if_neg (fun hin => (hnamed.mp hin).elim hlater hkey),
            List.filter_cons_of_pos (by simp [hkey]), List.cons_append]

/-- The channel under a key, if the last edit of the key put one there. -/
def latest? (edits : List (Edit κ)) (key : String) : Option (Channel κ) :=
  (edits.filter fun edit => edit.key == key).getLast?.bind Edit.channel?

theorem latest?_cons (edit : Edit κ) (later : List (Edit κ)) (key : String) :
    latest? (edit :: later) key =
      if key ∈ later.map Edit.key then latest? later key
      else if edit.key = key then edit.channel? else none := by
  unfold latest?
  by_cases hlater : key ∈ later.map Edit.key
  · obtain ⟨last, hlast, hkey⟩ := List.mem_map.mp hlater
    have hne : (later.filter fun e => e.key == key) ≠ [] :=
      List.ne_nil_of_mem (List.mem_filter.mpr ⟨hlast, by simp [hkey]⟩)
    rw [if_pos hlater]
    by_cases hown : edit.key = key
    · rw [List.filter_cons_of_pos (by simp [hown]), List.getLast?_cons_of_ne_nil hne]
    · rw [List.filter_cons_of_neg (by simp [hown])]
  · have hnone : (later.filter fun e => e.key == key) = [] := by
      rw [List.filter_eq_nil_iff]
      intro e he hkey
      exact hlater (List.mem_map.mpr ⟨e, he, beq_iff_eq.mp hkey⟩)
    rw [if_neg hlater]
    by_cases hown : edit.key = key <;> simp [hown, hnone]

theorem latest?_eq_none {edits : List (Edit κ)} {key : String} (h : key ∉ edits.map Edit.key) :
    latest? edits key = none := by
  cases edits with
  | nil => rfl
  | cons edit later =>
    rw [List.map_cons, List.mem_cons, not_or] at h
    rw [latest?_cons, if_neg h.2, if_neg fun hkey => h.1 hkey.symm]

/-- The channel that stands under a key is the one that its last edit put there. -/
theorem find?_standing (edits : List (Edit κ)) (id : String) :
    (standing edits).find? (fun c => sameName c.id id) = latest? edits (fold id) := by
  induction edits with
  | nil => rfl
  | cons edit later ih =>
    rw [latest?_cons]
    cases edit with
    | remove other =>
      rw [standing, ih]
      by_cases hlater : fold id ∈ later.map Edit.key
      · rw [if_pos hlater]
      · rw [if_neg hlater, latest?_eq_none hlater]
        simp [Edit.channel?]
    | put channel =>
      by_cases hname : sameName channel.id id = true
      · have hkey : fold channel.id = fold id := (sameName_iff channel.id id).1 hname
        rw [standing, hkey]
        by_cases hlater : fold id ∈ later.map Edit.key
        · rw [if_pos hlater, if_pos hlater, ih]
        · simp [hlater, hname, hkey, Edit.key, Edit.channel?]
      · have hkey : (Edit.put channel).key ≠ fold id := by
          intro hsame
          exact hname ((sameName_iff channel.id id).2 hsame)
        have hskip : (standing (.put channel :: later)).find? (fun c => sameName c.id id) =
            latest? later (fold id) := by
          rw [standing]
          split
          · exact ih
          · simp [hname, ih]
        rw [hskip, if_neg hkey]
        by_cases hlater : fold id ∈ later.map Edit.key
        · rw [if_pos hlater]
        · rw [if_neg hlater, latest?_eq_none hlater]

/-! ## One call -/

theorem without_eq (channels : List (Channel κ)) (id : String) :
    without channels id = channels.filter fun c => fold c.id != fold id := by
  apply List.filter_congr
  intro c _
  rw [sameName_eq_beq, bne]

theorem register_of_accepted {registry : Registry κ} {session : Session}
    {registration : Registration} (sink : κ)
    (h : (Validator.rejectedBy session registry.validators registration).1 = none) :
    registry.register session registration sink =
      (true, { registry with
        channels := without registry.channels registration.id ++ [{
          id := registration.id
          traits := (Validator.rejectedBy session registry.validators registration).2.traits
          sink }] }) := by
  rw [Validator.rejectedBy_eq_none_iff] at h
  rw [register, Validator.rejectedBy_of_accepts session registration h]
  rfl

theorem register_of_rejected {registry : Registry κ} {session : Session}
    {registration : Registration} (sink : κ)
    (h : (Validator.rejectedBy session registry.validators registration).1 ≠ none) :
    registry.register session registration sink = (false, registry) := by
  unfold register
  cases hreject : Validator.rejectedBy session registry.validators registration with
  | mk rejected admitted =>
    cases rejected with
    | none => exact absurd (congrArg Prod.fst hreject) h
    | some validator => rfl

theorem edit?_of_accepted {validators : List Validator} {session : Session}
    {registration : Registration} (sink : κ)
    (h : (Validator.rejectedBy session validators registration).1 = none) :
    (Request.register session registration sink).edit? validators =
      some (.put ⟨registration.id,
        (Validator.rejectedBy session validators registration).2.traits, sink⟩) := by
  rw [Validator.rejectedBy_eq_none_iff] at h
  rw [Request.edit?, Validator.rejectedBy_of_accepts session registration h]

theorem edit?_of_rejected {validators : List Validator} {session : Session}
    {registration : Registration} (sink : κ)
    (h : (Validator.rejectedBy session validators registration).1 ≠ none) :
    (Request.register session registration sink).edit? validators = none := by
  cases hreject : Validator.rejectedBy session validators registration with
  | mk rejected admitted =>
    cases rejected with
    | none => exact absurd (congrArg Prod.fst hreject) h
    | some validator => simp [Request.edit?, hreject]

theorem serve_snd (registry : Registry κ) (request : Request κ) :
    (registry.serve request).2 =
      match request.edit? registry.validators with
      | none => registry
      | some edit =>
        { registry with
          channels := (registry.channels.filter fun c => fold c.id != edit.key) ++
            edit.channel?.toList } := by
  cases request with
  | unregister id => simp [serve, unregister, without_eq, Request.edit?, Edit.key, Edit.channel?]
  | register session registration sink =>
    by_cases h : (Validator.rejectedBy session registry.validators registration).1 = none
    · rw [serve, register_of_accepted sink h, edit?_of_accepted sink h, without_eq]
      rfl
    · rw [serve, register_of_rejected sink h, edit?_of_rejected sink h]

/-- If a registry holds what stands after some edits, a call appends its edit to them. -/
theorem channels_serve {registry : Registry κ} {before : List (Edit κ)}
    (h : registry.channels = standing before) (request : Request κ) :
    (registry.serve request).2.channels =
      standing (before ++ (request.edit? registry.validators).toList) := by
  rw [serve_snd]
  cases request.edit? registry.validators with
  | none => simpa using h
  | some edit =>
    rw [Option.toList, standing_append_singleton, ← h]

@[simp] theorem validators_serve (registry : Registry κ) (request : Request κ) :
    (registry.serve request).2.validators = registry.validators := by
  rw [serve_snd]
  cases request.edit? registry.validators <;> rfl

theorem Reachable.serve {registry : Registry κ} (h : registry.Reachable) (request : Request κ) :
    (registry.serve request).2.Reachable := by
  cases request with
  | register session registration sink => exact .register session registration sink h
  | unregister id => exact .unregister id h

/-- Of the channels with an id up to case there is one to take out, or none. -/
theorem Distinct.length_without {channels : List (Channel κ)} (h : Distinct channels)
    (id : String) :
    (without channels id).length + 1 = channels.length ∨ without channels id = channels := by
  by_cases hin : ∃ c ∈ channels, sameName c.id id = true
  · obtain ⟨c, hc, hname⟩ := hin
    have hone : channels.filter (fun d => sameName d.id id) = [c] := by
      rw [← h.filter_sameName hc]
      apply List.filter_congr
      intro d _
      rw [Bool.eq_iff_iff, sameName_iff, sameName_iff, (sameName_iff c.id id).1 hname]
    have hsum := List.length_eq_countP_add_countP (l := channels) fun d => sameName d.id id
    rw [List.countP_eq_length_filter, hone, List.countP_eq_length_filter] at hsum
    left
    simp [without, hsum, Nat.add_comm]
  · right
    apply List.filter_eq_self.mpr
    intro c hc
    rw [Bool.not_eq_true', ← Bool.not_eq_true]
    intro hname
    exact hin ⟨c, hc, hname⟩

/-! ## Runs -/

theorem after_cons (registry : Registry κ) (request : Request κ) (rest : List (Request κ)) :
    registry.after (request :: rest) = (registry.serve request).2.after rest := rfl

theorem Reachable.after {registry : Registry κ} (h : registry.Reachable)
    (requests : List (Request κ)) : (registry.after requests).Reachable := by
  induction requests generalizing registry with
  | nil => exact h
  | cons request rest ih => exact ih (h.serve request)

theorem validators_after (registry : Registry κ) (requests : List (Request κ)) :
    (registry.after requests).validators = registry.validators := by
  induction requests generalizing registry with
  | nil => rfl
  | cons request rest ih => rw [after_cons, ih, validators_serve]

theorem channels_after {registry : Registry κ} {before : List (Edit κ)}
    (h : registry.channels = standing before) (requests : List (Request κ)) :
    (registry.after requests).channels =
      standing (before ++ edits registry.validators requests) := by
  induction requests generalizing registry before with
  | nil => simpa [after, edits] using h
  | cons request rest ih =>
    rw [after_cons, ih (channels_serve h request), validators_serve, edits_cons,
      List.append_assoc]

/-- After any calls a registry is the map that its accepted calls make. Its ids differ by more than
case, an accepted registration takes the place of the channel with its id and goes to the end, a
rejected one changes nothing, and unregistering tells whether a channel was taken out. -/
theorem refines_keyed_map (validators : List Validator) (requests : List (Request κ)) :
    let registry : Registry κ := (create validators).after requests
    let history := edits validators requests
    registry.channels.Pairwise (fun a b => fold a.id ≠ fold b.id) ∧
    (∀ (session : Session) (registration : Registration) (sink : κ),
      ((Validator.rejectedBy session validators registration).1 = none →
        registry.register session registration sink =
          (true, { registry with
            channels := (registry.channels.filter fun c => fold c.id != fold registration.id) ++
              [⟨registration.id,
                (Validator.rejectedBy session validators registration).2.traits, sink⟩] })) ∧
      ((Validator.rejectedBy session validators registration).1 ≠ none →
        registry.register session registration sink = (false, registry))) ∧
    (∀ id : String,
      (registry.unregister id).2.channels =
        registry.channels.filter (fun c => fold c.id != fold id) ∧
      ((registry.unregister id).1 = true ↔
        (registry.unregister id).2.channels.length + 1 = registry.channels.length)) ∧
    registry.channels = standing history ∧
    (∀ id : String, registry.traits? id = (latest? history (fold id)).map Channel.traits) ∧
    registry.ids = (standing history).map Channel.id ∧
    registry.restrictedIds =
      ((standing history).filter fun c => c.traits.restricted).map Channel.id ∧
    registry.channels.length = (standing history).length := by
  intro registry history
  have hdistinct : Distinct registry.channels :=
    ((Reachable.create validators).after requests).distinct
  have hvalidators : registry.validators = validators := validators_after _ _
  have hnone : (create validators : Registry κ).channels = standing [] := rfl
  have hchannels : registry.channels = standing history := channels_after hnone requests
  refine ⟨hdistinct, ?_, ?_, hchannels, ?_, ?_, ?_, ?_⟩
  · intro session registration sink
    rw [← hvalidators, ← without_eq]
    exact ⟨register_of_accepted sink, register_of_rejected sink⟩
  · intro id
    refine ⟨without_eq registry.channels id, ?_⟩
    have hlength := hdistinct.length_without id
    rw [unregister, bne_iff_ne]
    constructor
    · intro hne
      exact hlength.resolve_right fun hsame => hne (congrArg List.length hsame)
    · intro hone
      dsimp only at hone
      omega
  · intro id
    rw [traits?, hchannels, find?_standing]
  · rw [ids, hchannels]
  · rw [restrictedIds, hchannels]
  · rw [hchannels]

end EventGate.Registry

namespace EventGate

namespace Sample

def requests : List (Registry.Request Nat) :=
  [.register (.create "s") ⟨"audit", .default⟩ 0, .register (.create "s") ⟨"Audit", .plain⟩ 1,
    .register (.create "s") ⟨"ads", .plain⟩ 2]

end Sample

/-- The second channel has taken the place of the first. -/
theorem second_audit_replaces_first :
    let registry := (Registry.create [.override [("Ads", false)]]).after Sample.requests
    registry.ids = ["Audit"] ∧ registry.traits? "AUDIT" = some .plain ∧
      registry.register (.create "s") ⟨"ADS", .default⟩ 3 = (false, registry) := by
  intro registry
  obtain ⟨-, hregister, -, -, htraits, hids, -, -⟩ :=
    Registry.refines_keyed_map [.override [("Ads", false)]] Sample.requests
  refine ⟨?_, ?_, (hregister _ _ 3).2 (by decide)⟩
  · exact hids.trans (by decide)
  · exact (htraits "AUDIT").trans (by decide)

end EventGate
