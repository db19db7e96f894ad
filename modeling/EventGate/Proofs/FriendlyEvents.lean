import EventGate.Proofs.OptOut

/-! # Friendly events of opted-out sessions

The host holds back all properties but the friendly and the reserved ones. Of what the later stages
add to an event, only the raw texts that hashing puts beside personal values can get past this.
-/

namespace EventGate

open Stage Text

namespace Event

/-- Whether a name is friendly or reserved, so that an opted-out session may send it. -/
def AllowsName (event : Event) (name : String) : Prop :=
  event.friendlyNames.contains name = true ∨ Naming.isReserved name = true

theorem allowsName_congr (event : Event) {a b : String} (h : sameName a b = true) :
    event.AllowsName a ↔ event.AllowsName b := by
  have hfold : fold a = fold b := (sameName_iff a b).1 h
  rw [AllowsName, AllowsName, event.friendlyNames.contains_congr hfold,
    Naming.isReserved_congr hfold]

theorem property?_ne_none_iff {event : Event} {name : String} :
    event.property? name ≠ none ↔ ∃ e ∈ event.sent, sameName e.1 name = true := by
  have hcongr {e : Entry} (h : sameName e.1 name = true) :
      event.isExcluded e.1 = event.isExcluded name :=
    event.isExcluded_congr ((sameName_iff e.1 name).1 h)
  unfold property?
  cases hx : event.isExcluded name with
  | true =>
    refine iff_of_false (by simp) ?_
    rintro ⟨e, he, hsame⟩
    rw [mem_sent, hcongr hsame, hx] at he
    exact absurd he.2 (by decide)
  | false =>
    rw [if_neg Bool.false_ne_true, Bag.get?, Bag.find?, Option.ne_none_iff_isSome,
      Option.isSome_map, List.find?_isSome]
    constructor
    · rintro ⟨e, he, hsame⟩
      exact ⟨e, mem_sent.mpr ⟨he, (hcongr hsame).trans hx⟩, hsame⟩
    · rintro ⟨e, he, hsame⟩
      exact ⟨e, (mem_sent.mp he).1, hsame⟩

end Event

theorem HostStage.sendsOnly_excludeAll_unfriendly (event : Event) :
    (event.excludeAll (unfriendly event)).SendsOnly event.AllowsName := by
  intro e he
  obtain ⟨hmem, hsent⟩ := Event.mem_sent.mp he
  rw [Event.properties_excludeAll] at hmem
  by_cases hname : event.AllowsName e.1
  · exact hname
  · rw [Event.AllowsName, not_or, Bool.not_eq_true, Bool.not_eq_true] at hname
    have hunfriendly : e.1 ∈ unfriendly event := by
      rw [unfriendly, List.mem_filter]
      refine ⟨List.mem_map_of_mem hmem, ?_⟩
      rw [hname.1, hname.2]
      rfl
    rw [Event.isExcluded_excludeAll_of_mem hunfriendly (Bag.contains_of_mem hmem)] at hsent
    exact absurd hsent (by decide)

theorem Manifest.allowedProperties_eq_nil {actions : List Action}
    (h : ∀ action ∈ actions, ∀ names, action.effect ≠ .allowProperties names) :
    (optOutRules actions).allowedProperties = [] := by
  refine List.filterMap_eq_nil_iff.mpr fun action hm => ?_
  have hne := h action hm
  cases he : action.effect with
  | allowProperties names => exact absurd he (hne names)
  | _ => rfl

namespace Processor

variable {κ : Type} {p : Processor HostState κ}

section

variable (hhost : p.host = HostStage.standard) (manifest : Manifest) (now : Nat) (event : Event)

include hhost

/-- Up to the hashing, a friendly event of an opted-out session comes to send only friendly and
reserved properties. -/
theorem sendsOnly_passBefore_personal (hout : p.session.optedOut = true)
    (hfriendly : event.friendly = true)
    (hrules : ∀ action ∈ manifest.actions, ∀ names, action.effect ≠ .allowProperties names)
    (hd : (p.passBefore manifest now event .customOptOut).context.dropped = false) :
    (p.passBefore manifest now event .personal).event.SendsOnly event.AllowsName := by
  have hown : (p.passAfter manifest now event .customOptOut).event.SendsOnly event.AllowsName := by
    have hsession : (p.surroundings now).session.optedOut = true := hout
    have hstill : (p.passBefore manifest now event .customOptOut).event.friendly = true :=
      (part_passBelow hhost manifest now event Event.friendly (fun _ => rfl) _).trans hfriendly
    have hnames : (p.passBefore manifest now event .customOptOut).event.AllowsName =
        event.AllowsName :=
      part_passBelow hhost manifest now event Event.AllowsName (fun _ => rfl) _
    rw [passAfter_eq hhost, Priority.stage, HostStage.effect_customOptOut, hd, hsession,
      if_neg (by decide), if_pos hstill, ← hnames]
    exact HostStage.sendsOnly_excludeAll_unfriendly _
  exact sendsOnly_passBelow hhost manifest now event (by decide) (.inl (Nat.le_refl _))
    ⟨.inr (by decide), .inr (by decide)⟩
    (fun _ => Manifest.allowedProperties_eq_nil hrules) hown

/-- All that such an event sends in the end is friendly or reserved, or a raw text that the hashing
put beside a property that was sent. -/
theorem sendsOnly_passAfter_route (hout : p.session.optedOut = true)
    (hfriendly : event.friendly = true)
    (hrules : ∀ action ∈ manifest.actions, ∀ names, action.effect ≠ .allowProperties names)
    (hd : (p.passAfter manifest now event .manifestRoute).context.dropped = false) :
    (p.passAfter manifest now event .manifestRoute).event.SendsOnly fun name =>
      event.AllowsName name ∨
        Personal.IsCompanion p.session (p.passBefore manifest now event .personal).event name := by
  have hcustom : (p.passBefore manifest now event .customOptOut).context.dropped = false :=
    dropped_passBelow hhost manifest now event (by decide) hd
  have hpersonal : (p.passBefore manifest now event .personal).context.dropped = false :=
    dropped_passBelow hhost manifest now event (by decide) hd
  have hhashed : (p.passAfter manifest now event .personal).event.SendsOnly fun name =>
      event.AllowsName name ∨
        Personal.IsCompanion p.session (p.passBefore manifest now event .personal).event name := by
    rw [passAfter_eq hhost, Priority.stage, HostStage.effect_personal, hpersonal,
      if_neg Bool.false_ne_true]
    exact Personal.sendsOnly_hashAllWith Digest.ofText p.session
      (sendsOnly_passBefore_personal hhost manifest now event hout hfriendly hrules hcustom)
  exact sendsOnly_passBelow hhost manifest now event (by decide) (.inr (Nat.lt_succ_self _))
    ⟨.inl (.inr (by decide)), .inl (.inr (by decide))⟩ (fun h => absurd h (by decide)) hhashed

/-- A friendly event of an opted-out session sends only friendly and reserved properties exactly if
each raw text is friendly or reserved, or not sent, that the hashing put beside a personal value. -/
theorem friendly_event_sends_only_iff (hout : p.session.optedOut = true)
    (hfriendly : event.friendly = true)
    (hrules : ∀ action ∈ manifest.actions, ∀ names, action.effect ≠ .allowProperties names)
    (hd : (p.process manifest now event).1.dropped = false) :
    let final := (p.process manifest now event).1.event
    let unhashed := (p.passBefore manifest now event .personal).event
    (∀ e ∈ final.sent, event.AllowsName e.1) ↔
      (p.session.collectsPrivate = true → ∀ own ∈ Personal.names unhashed,
        unhashed.isExcluded own = false → final.property? (Naming.rawName own) ≠ none →
          event.AllowsName (Naming.rawName own)) := by
  intro final unhashed
  have hfinal : final.SendsOnly fun name =>
      event.AllowsName name ∨ Personal.IsCompanion p.session unhashed name := by
    rw [process_fst, dropped_outcome] at hd
    rw [show final = _ from congrArg Outcome.event (p.process_fst manifest now event),
      event_outcome]
    exact sendsOnly_passAfter_route hhost manifest now event hout hfriendly hrules hd
  constructor
  · intro hall _ own _ _ hread
    obtain ⟨e, he, hsame⟩ := Event.property?_ne_none_iff.mp hread
    exact (event.allowsName_congr hsame).mp (hall e he)
  · intro hraw e he
    rcases hfinal e he with hname | ⟨hcollects, own, hown, hsent, hname⟩
    · exact hname
    · have hread : final.property? (Naming.rawName own) ≠ none :=
        Event.property?_ne_none_iff.mpr ⟨e, he, hname ▸ sameName_refl e.1⟩
      rw [hname]
      exact hraw hcollects own hown hsent hread

end

end Processor

namespace Sample

def login : Event :=
  { pageView.put "email" (.personal (.text "a@b.c")) with
    name := "Op/Login"
    friendly := true
    friendlyNames := .ofList ["email"] }

def optedOut (collectsPrivate : Bool) : Session :=
  { Session.create "s" with optedOut := true, collectsPrivate }

end Sample

/-- Without private data the login sends only what is friendly or reserved. -/
theorem login_without_private_data :
    let p := Processor.standard (Sample.optedOut false) Sample.registry 0
    let outcome := (p.process Manifest.bundled 0 Sample.login).1
    p.host = HostStage.standard ∧ p.session.optedOut = true ∧ Sample.login.friendly = true ∧
      outcome.dropped = false ∧ outcome.delivered = ["Audit"] ∧
      ∀ e ∈ outcome.event.sent, Sample.login.AllowsName e.1 := by
  intro p outcome
  have hhost : p.host = HostStage.standard := Processor.host_standard _ _ _
  have hrun : outcome.dropped = false ∧ outcome.delivered = ["Audit"] := by
    rw [show outcome = _ from Processor.process_fst_eq_foldl hhost _ _ _]
    decide
  have hspec := Processor.friendly_event_sends_only_iff hhost Manifest.bundled 0 Sample.login rfl
    rfl (fun action hm => absurd hm List.not_mem_nil) hrun.1
  exact ⟨hhost, rfl, rfl, hrun.1, hrun.2, hspec.mpr fun h => absurd h (by decide)⟩

/-- With private data it sends the raw address as well, under a name that is neither. -/
theorem login_with_private_data :
    let p := Processor.standard (Sample.optedOut true) Sample.registry 0
    let outcome := (p.process Manifest.bundled 0 Sample.login).1
    outcome.dropped = false ∧ outcome.delivered = ["Audit"] ∧
      ¬ ∀ e ∈ outcome.event.sent, Sample.login.AllowsName e.1 := by
  intro p outcome
  have hrun : outcome = _ :=
    Processor.process_fst_eq_foldl (Processor.host_standard _ _ _) Manifest.bundled 0 Sample.login
  have hdelivered : outcome.dropped = false ∧ outcome.delivered = ["Audit"] := by
    rw [hrun]
    decide
  have hraw : (outcome.event.sent.any fun e => e.1 == "email.NotHashed") = true := by
    rw [hrun]
    decide +kernel
  refine ⟨hdelivered.1, hdelivered.2, fun hall => ?_⟩
  obtain ⟨e, he, hname⟩ := List.any_eq_true.mp hraw
  have hallowed := hall e he
  rw [eq_of_beq hname] at hallowed
  rcases hallowed with h | h
  · exact absurd h (by decide)
  · exact absurd h (by decide)

end EventGate
