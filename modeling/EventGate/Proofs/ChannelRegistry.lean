import EventGate.Channel.Registry

/-! # Registries in use

A registry that comes from registering and unregistering holds one channel for each id up to case.
So the channel of an id is the only one that an exclusion or a route of this id can mean.
-/

namespace EventGate.Registry

open Text

variable {κ : Type}

inductive Reachable : Registry κ → Prop where
  | create (validators : List Validator) : Reachable (create validators)
  | register {registry : Registry κ} (session : Session) (registration : Registration) (sink : κ) :
    Reachable registry → Reachable (registry.register session registration sink).2
  | unregister {registry : Registry κ} (id : String) :
    Reachable registry → Reachable (registry.unregister id).2

/-- Channels with ids that differ by more than case. -/
def Distinct (channels : List (Channel κ)) : Prop :=
  channels.Pairwise fun a b => fold a.id ≠ fold b.id

theorem distinct_without {channels : List (Channel κ)} (h : Distinct channels) (id : String) :
    Distinct (without channels id) :=
  h.sublist List.filter_sublist

theorem distinct_register {registry : Registry κ} (h : Distinct registry.channels)
    (session : Session) (registration : Registration) (sink : κ) :
    Distinct (registry.register session registration sink).2.channels := by
  unfold register
  cases Validator.rejectedBy session registry.validators registration with
  | mk rejected admitted =>
    cases rejected with
    | some validator => exact h
    | none =>
      refine List.pairwise_append.mpr ⟨distinct_without h admitted.id, List.pairwise_singleton _ _,
        fun a ha b hb => ?_⟩
      rw [List.mem_singleton.mp hb]
      have hkept := (List.mem_filter.mp ha).2
      rw [Bool.not_eq_true', ← Bool.not_eq_true, sameName_iff] at hkept
      exact hkept

theorem Reachable.distinct {registry : Registry κ} (h : registry.Reachable) :
    Distinct registry.channels := by
  induction h with
  | create => exact List.Pairwise.nil
  | register session registration sink _ ih => exact distinct_register ih session registration sink
  | unregister id _ ih => exact distinct_without ih id

/-- Of distinct channels only one has the id of a channel among them. -/
theorem Distinct.eq_of_sameName {channels : List (Channel κ)} (h : Distinct channels)
    {a b : Channel κ} (ha : a ∈ channels) (hb : b ∈ channels)
    (hid : sameName a.id b.id = true) : a = b := by
  rw [sameName_iff] at hid
  induction channels with
  | nil => exact absurd ha List.not_mem_nil
  | cons c rest ih =>
    have hrest : ∀ d ∈ rest, fold c.id ≠ fold d.id := fun d hd => List.rel_of_pairwise_cons h hd
    rcases List.mem_cons.mp ha with rfl | har
    · rcases List.mem_cons.mp hb with rfl | hbr
      · rfl
      · exact absurd hid (hrest b hbr)
    · rcases List.mem_cons.mp hb with rfl | hbr
      · exact absurd hid.symm (hrest a har)
      · exact ih (List.Pairwise.of_cons h) har hbr

theorem Distinct.filter_sameName {channels : List (Channel κ)} (h : Distinct channels)
    {c : Channel κ} (hc : c ∈ channels) :
    channels.filter (fun d => sameName d.id c.id) = [c] := by
  induction channels with
  | nil => exact absurd hc List.not_mem_nil
  | cons d rest ih =>
    have hrest : ∀ e ∈ rest, fold d.id ≠ fold e.id := fun e he => List.rel_of_pairwise_cons h he
    rcases List.mem_cons.mp hc with rfl | hc
    · have hnone : rest.filter (fun e => sameName e.id c.id) = [] := by
        refine List.filter_eq_nil_iff.mpr fun e he hsame => ?_
        exact hrest e he ((sameName_iff _ _).1 hsame).symm
      rw [List.filter_cons, if_pos (sameName_refl c.id), hnone]
    · have hne : ¬ sameName d.id c.id = true := by
        rw [sameName_iff]
        exact hrest c hc
      rw [List.filter_cons, if_neg hne, ih (List.Pairwise.of_cons h) hc]

theorem Distinct.any_restrictedIds {registry : Registry κ} (h : Distinct registry.channels)
    {c : Channel κ} (hc : c ∈ registry.channels) :
    registry.restrictedIds.any (fun id => sameName id c.id) = c.traits.restricted := by
  rw [Bool.eq_iff_iff, List.any_eq_true]
  constructor
  · rintro ⟨id, hid, hsame⟩
    obtain ⟨d, hd, rfl⟩ := List.mem_map.mp hid
    obtain ⟨hmem, hrestricted⟩ := List.mem_filter.mp hd
    rwa [← h.eq_of_sameName hmem hc hsame]
  · intro hrestricted
    exact ⟨c.id, List.mem_map_of_mem (List.mem_filter.mpr ⟨hc, hrestricted⟩), sameName_refl c.id⟩

/-! ## Deliveries -/

/-- Whether a channel gets an event with these routes and exclusions. -/
def isReached (routes : List Routed) (excluded : NameSet) (channel : Channel κ) : Bool :=
  !excluded.contains channel.id &&
    (channel.traits.isDefault || !(argumentsFor routes channel.id).isEmpty)

def deliveryTo (routes : List Routed) (channel : Channel κ) : Delivery κ :=
  ⟨channel.id, channel.sink, argumentsFor routes channel.id⟩

theorem delivery?_eq (routes : List Routed) (excluded : NameSet) (channel : Channel κ) :
    delivery? routes excluded channel =
      if isReached routes excluded channel then some (deliveryTo routes channel) else none := by
  unfold delivery? isReached deliveryTo
  cases excluded.contains channel.id <;> simp

theorem dispatch_eq (registry : Registry κ) (routes : List Routed) (excluded : NameSet) :
    registry.dispatch routes excluded =
      (registry.channels.filter (isReached routes excluded)).map (deliveryTo routes) := by
  unfold dispatch
  induction registry.channels with
  | nil => rfl
  | cons c rest ih =>
    rw [List.filterMap_cons, delivery?_eq, List.filter_cons, ih]
    split <;> simp_all

end EventGate.Registry
