import EventGate.Proofs.Delivery

/-! # Restricted channels

An event with raw personal data or structured values to send is kept from the restricted channels.
The stages after the restriction add no names to what is sent, so what was not raw then stays so.
-/

namespace EventGate

open Stage Text

theorem Outcome.mem_received {κ : Type} {outcome : Outcome κ} {id : String} {posted : Posted} :
    posted ∈ outcome.received id ↔
      ∃ d ∈ outcome.deliveries, sameName d.id id = true ∧
        posted = ⟨outcome.event, d.arguments⟩ := by
  simp only [received, List.mem_map, List.mem_filter]
  constructor
  · rintro ⟨d, ⟨hd, hid⟩, rfl⟩
    exact ⟨d, hd, hid, rfl⟩
  · rintro ⟨d, hd, hid, rfl⟩
    exact ⟨d, ⟨hd, hid⟩, rfl⟩

/-- A delivery is that of an event that was not dropped, to a channel that is not excluded. -/
theorem Processor.contains_excludedChannels_of_mem_deliveries {σ κ : Type}
    {registry : Registry κ} {pass : Pass σ} {d : Delivery κ}
    (hd : d ∈ (outcome registry pass).deliveries) :
    pass.context.dropped = false ∧ pass.context.excludedChannels.contains d.id = false := by
  rw [deliveries_outcome] at hd
  split at hd
  next => exact absurd hd List.not_mem_nil
  next hdropped =>
    rw [Registry.dispatch_eq] at hd
    obtain ⟨c, hc, rfl⟩ := List.mem_map.mp hd
    have hreached := (List.mem_filter.mp hc).2
    rw [Registry.isReached, Bool.and_eq_true, Bool.not_eq_true'] at hreached
    exact ⟨eq_false_of_ne_true hdropped, hreached.1⟩

theorem Registry.any_restrictedIds_of_mem {κ : Type} {registry : Registry κ} {channel : Channel κ}
    (hc : channel ∈ registry.channels) (hrestricted : channel.traits.restricted = true)
    {id : String} (hid : sameName id channel.id = true) :
    registry.restrictedIds.any (fun other => sameName other id) = true := by
  have hmem : channel.id ∈ registry.restrictedIds :=
    List.mem_map_of_mem (List.mem_filter.mpr ⟨hc, hrestricted⟩)
  have hsame : sameName channel.id id = true := by
    rw [sameName_iff] at hid ⊢
    exact hid.symm
  exact List.any_eq_true.mpr ⟨channel.id, hmem, hsame⟩

namespace HostStage

theorem of_not_sendsSensitive {event : Event} (h : sendsSensitive event = false) :
    (event.SendsOnly fun name => Naming.isRaw name = false) ∧
      ∀ e ∈ event.sent, e.2.isStructured = false := by
  have heach : ∀ e ∈ event.sent, Naming.isRaw e.1 = false ∧ e.2.isStructured = false := by
    intro e he
    have hs := List.any_eq_false.mp h e he
    rwa [isSensitive, Bool.not_eq_true, Bool.or_eq_false_iff] at hs
  exact ⟨fun e he => (heach e he).1, fun e he => (heach e he).2⟩

end HostStage

namespace Processor

variable {κ : Type} {p : Processor HostState κ}

/-- A restricted channel gets no event that sends a raw text, and none that had a structured value
to send when the restriction looked at it. -/
theorem restricted_never_gets_sensitive (hhost : p.host = HostStage.standard)
    (manifest : Manifest) (now : Nat) (event : Event) {channel : Channel κ}
    (hc : channel ∈ p.registry.channels) (hrestricted : channel.traits.restricted = true)
    {posted : Posted} (hposted : posted ∈ (p.process manifest now event).1.received channel.id) :
    (∀ e ∈ posted.event.sent, Naming.isRaw e.1 = false) ∧
      ∀ e ∈ (p.passBefore manifest now event .restriction).event.sent,
        e.2.isStructured = false := by
  obtain ⟨d, hd, hid, rfl⟩ := Outcome.mem_received.mp hposted
  rw [process_fst] at hd
  obtain ⟨hdropped, hexcluded⟩ := contains_excludedChannels_of_mem_deliveries hd
  rw [contains_excludedChannels hhost manifest now event hdropped, Bool.or_eq_false_iff,
    Registry.any_restrictedIds_of_mem hc hrestricted hid, Bool.and_true] at hexcluded
  obtain ⟨hraw, hstructured⟩ := HostStage.of_not_sendsSensitive hexcluded.2
  refine ⟨?_, hstructured⟩
  -- No stage from the restriction on makes the event send a name that it did not send before.
  have hfinal : (p.passAfter manifest now event .manifestRoute).event.SendsOnly
      fun name => Naming.isRaw name = false :=
    sendsOnly_passBelow hhost manifest now event (by decide) (.inr (by decide)) (by decide)
      (fun h => absurd h (by decide)) hraw
  rw [process_fst, event_outcome]
  exact hfinal

end Processor

namespace Sample

def guarded : Registry Nat :=
  (registry.register (.create "s") ⟨"Model", ⟨true, false, true⟩⟩ 2).2

def visit : Event :=
  pageView.put "Page" (.text "home")

def rawVisit : Event :=
  visit.put "Reader.nothashed" (.text "a@b.c")

end Sample

/-- The restricted channel gets a visit without raw texts, and is passed over by one with a raw
text. -/
theorem visit_reaches_restricted_channel :
    let p := Processor.standard (.create "s") Sample.guarded 0
    let outcome := (p.process Manifest.bundled 0 Sample.visit).1
    let model : Channel Nat := ⟨"Model", ⟨true, false, true⟩, 2⟩
    p.host = HostStage.standard ∧ model ∈ p.registry.channels ∧
      (p.process Manifest.bundled 0 Sample.rawVisit).1.delivered = ["Audit"] ∧
      outcome.delivered = ["Audit", "Model"] ∧
      ∀ posted ∈ outcome.received "Model", ∀ e ∈ posted.event.sent,
        Naming.isRaw e.1 = false := by
  intro p outcome model
  have hhost : p.host = HostStage.standard := Processor.host_standard _ _ _
  have hmodel : model ∈ p.registry.channels := by
    change model ∈ [(⟨"Audit", .default, 0⟩ : Channel Nat), ⟨"Ads", .plain, 1⟩, model]
    simp
  have hraw : (p.process Manifest.bundled 0 Sample.rawVisit).1.delivered = ["Audit"] := by
    rw [Processor.process_fst_eq_foldl hhost]
    decide
  have hplain : outcome.delivered = ["Audit", "Model"] := by
    rw [show outcome = _ from Processor.process_fst_eq_foldl hhost _ _ _]
    decide
  exact ⟨hhost, hmodel, hraw, hplain, fun posted hposted =>
    (Processor.restricted_never_gets_sensitive hhost Manifest.bundled 0 Sample.visit hmodel rfl
      hposted).1⟩

end EventGate
