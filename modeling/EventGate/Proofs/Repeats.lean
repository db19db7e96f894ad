import EventGate.Proofs.Calls
import EventGate.Proofs.Dropping
import EventGate.Proofs.Fingerprint

/-! # Repeated settings

In a run of calls the table has only keys of settings that went past it. The rate limit stands
behind the table, and a setting that it drops is remembered as if it had been sent.
-/

namespace EventGate

open Stage

variable {κ : Type}

namespace Step

/-- The event of a call as it gets to the table. -/
def asking (s : Step HostState κ) : Event :=
  (s.passBefore .setting).event

def settingKey (s : Step HostState κ) : String :=
  HostStage.fingerprint s.asking

def settings (s : Step HostState κ) : SettingTable :=
  s.processor.state.settings

/-- A setting event gets as far as the table. -/
structure Asks (s : Step HostState κ) : Prop where
  kind : s.call.event.kind = .setting
  arrives : (s.passBefore .setting).context.dropped = false

/-- A setting event goes past the table. -/
structure Passes (s : Step HostState κ) : Prop extends Asks s where
  goesOn : (s.passAfter .setting).context.dropped = false

/-- A setting event is dropped because the table has its key. -/
structure Repeats (s : Step HostState κ) : Prop extends Asks s where
  stops : (s.passAfter .setting).context.dropped = true

/-! ## One call -/

section

variable {s : Step HostState κ} (hhost : s.serving.host = HostStage.standard)

include hhost

theorem settings_passBefore : (s.passBefore .setting).state.settings = s.settings :=
  Processor.part_before_place hhost _ _ _ (fun pass => pass.state.settings) .setting
    settings_effect (Nat.le_refl _)

theorem settings_next : s.next.state.settings = (s.passAfter .setting).state.settings := by
  rw [state_next]
  exact Processor.part_behind_place hhost _ _ _ (fun pass => pass.state.settings) .setting
    settings_effect (by decide)

theorem kind_passBefore (place : Priority) : (s.passBefore place).event.kind = s.call.event.kind :=
  Processor.part_passBelow hhost _ _ _ Event.kind (fun _ => rfl) _

theorem asks_iff :
    s.Asks ↔ ((s.passBefore .setting).context.dropped ||
      decide ((s.passBefore .setting).event.kind ≠ .setting)) = false := by
  rw [Bool.or_eq_false_iff, kind_passBefore hhost, decide_eq_false_iff_not, Decidable.not_not]
  exact ⟨fun h => ⟨h.arrives, h.kind⟩, fun h => ⟨h.2, h.1⟩⟩

/-- The table observes the key of a setting event, and stops the event unless the key is new. -/
theorem Asks.passAfter_setting (h : s.Asks) :
    s.passAfter .setting =
      { s.passBefore .setting with
        state := { (s.passBefore .setting).state with
          settings := (s.settings.observe s.settingKey).2 }
        context :=
          if (s.settings.observe s.settingKey).1 then (s.passBefore .setting).context
          else (s.passBefore .setting).context.drop } := by
  rw [Step.passAfter_eq hhost, Priority.stage, HostStage.effect_setting, (asks_iff hhost).mp h,
    if_neg Bool.false_ne_true, settings_passBefore hhost]
  rfl

theorem Asks.dropped_passAfter (h : s.Asks) :
    (s.passAfter .setting).context.dropped = !(s.settings.observe s.settingKey).1 := by
  rw [h.passAfter_setting hhost]
  cases (s.settings.observe s.settingKey).1 with
  | true => exact h.arrives
  | false => rfl

theorem settings_next_of_not_asks (h : ¬ s.Asks) : s.next.state.settings = s.settings := by
  rw [asks_iff hhost, Bool.not_eq_false] at h
  rw [settings_next hhost, passAfter_eq hhost, Priority.stage, HostStage.effect_setting, h,
    if_pos rfl, settings_passBefore hhost]

theorem Asks.settings_next (h : s.Asks) :
    s.next.state.settings = (s.settings.observe s.settingKey).2 := by
  rw [Step.settings_next hhost, h.passAfter_setting hhost]

/-- A setting event is dropped as a repeat exactly if the table has its key. -/
theorem repeats_iff : s.Repeats ↔ s.Asks ∧ s.settingKey ∈ s.settings.keys := by
  rw [← SettingTable.observe_fst_eq_false_iff]
  constructor
  · rintro ⟨hasks, hstops⟩
    rw [hasks.dropped_passAfter hhost, Bool.not_eq_true'] at hstops
    exact ⟨hasks, hstops⟩
  · rintro ⟨hasks, hold⟩
    refine ⟨hasks, ?_⟩
    rw [hasks.dropped_passAfter hhost, hold]
    rfl

theorem passes_iff : s.Passes ↔ s.Asks ∧ s.settingKey ∉ s.settings.keys := by
  rw [← SettingTable.observe_fst_eq_false_iff, Bool.not_eq_false]
  constructor
  · rintro ⟨hasks, hgoes⟩
    rw [hasks.dropped_passAfter hhost, Bool.not_eq_false'] at hgoes
    exact ⟨hasks, hgoes⟩
  · rintro ⟨hasks, hnew⟩
    refine ⟨hasks, ?_⟩
    rw [hasks.dropped_passAfter hhost, hnew]
    rfl

theorem mem_keys_next {key : String} (h : key ∈ s.next.state.settings.keys) :
    key ∈ s.settings.keys ∨ s.Passes ∧ s.settingKey = key := by
  by_cases hasks : s.Asks
  · rw [hasks.settings_next hhost] at h
    rcases SettingTable.mem_keys_observe h with rfl | hkept
    · by_cases hold : s.settingKey ∈ s.settings.keys
      · exact .inl hold
      · exact .inr ⟨(passes_iff hhost).mpr ⟨hasks, hold⟩, rfl⟩
    · exact .inl hkept
  · rw [settings_next_of_not_asks hhost hasks] at h
    exact .inl h

theorem Asks.repeats_next (h : s.Asks) {call : Call κ} (hagain : (⟨s.next, call⟩ : Step _ κ).Asks)
    (hkey : (⟨s.next, call⟩ : Step _ κ).settingKey = s.settingKey) :
    (⟨s.next, call⟩ : Step _ κ).Repeats := by
  refine (repeats_iff (s := ⟨s.next, call⟩) hhost).mpr ⟨hagain, ?_⟩
  rw [hkey, settings, Asks.settings_next hhost h]
  exact SettingTable.self_mem_keys_observe s.settings s.settingKey

/-- A setting event that is not dropped has gone past the table. -/
theorem passes_of_not_dropped (hkind : s.call.event.kind = .setting)
    (hd : s.outcome.dropped = false) : s.Passes := by
  rw [outcome, Processor.process_fst, Processor.dropped_outcome] at hd
  exact ⟨⟨hkind, Processor.dropped_passBelow hhost _ _ _ (by decide) hd⟩,
    Processor.dropped_passBelow hhost _ _ _ (by decide) hd⟩

theorem Passes.dropped_eq_throttled (h : s.Passes) : s.outcome.dropped = s.outcome.throttled :=
  Processor.dropped_eq_throttled hhost _ _ _ h.goesOn

end

end Step

/-! ## Runs -/

namespace Processor

variable {p : Processor HostState κ} (hhost : p.host = HostStage.standard)

include hhost

/-- At every call of a run, each key of the table was there at the start or is that of a setting
event that went past the table before. -/
theorem mem_keys_of_steps {calls : List (Call κ)} {before later : List (Step HostState κ)}
    {s : Step HostState κ} (hrun : p.steps calls = before ++ s :: later) {key : String}
    (hkey : key ∈ s.settings.keys) :
    key ∈ p.state.settings.keys ∨ ∃ t ∈ before, t.Passes ∧ t.settingKey = key := by
  -- A key of the table that the first call leaves was there before, or is that of its event.
  induction calls generalizing p before with
  | nil => exact absurd hrun.symm (List.append_ne_nil_of_right_ne_nil _ (List.cons_ne_nil _ _))
  | cons call rest ih =>
    rw [steps_cons] at hrun
    cases before with
    | nil =>
      obtain ⟨rfl, -⟩ := List.cons.inj hrun
      exact .inl hkey
    | cons first earlier =>
      obtain ⟨rfl, htail⟩ := List.cons.inj hrun
      have hfirst : (⟨p, call⟩ : Step HostState κ).processor.host = HostStage.standard := hhost
      rcases ih ((Step.host_next _).trans hhost) htail with hold | ⟨t, ht, hpasses⟩
      · rcases Step.mem_keys_next hfirst hold with hold | hpasses
        · exact .inl hold
        · exact .inr ⟨_, List.mem_cons_self, hpasses⟩
      · exact .inr ⟨t, List.mem_cons_of_mem _ ht, hpasses⟩

/-- In a run that starts with an empty table, a setting event that is dropped as a repeat has an
earlier one with its key that went past the table. -/
theorem exists_passes_of_repeats (hnew : p.state.settings.keys = []) {calls : List (Call κ)}
    {before later : List (Step HostState κ)} {s : Step HostState κ}
    (hrun : p.steps calls = before ++ s :: later) (h : s.Repeats) :
    ∃ t ∈ before, t.Passes ∧ t.settingKey = s.settingKey := by
  have hs : s ∈ p.steps calls := hrun ▸ List.mem_append_right before List.mem_cons_self
  have hkey : s.settingKey ∈ s.settings.keys :=
    ((Step.repeats_iff ((host_of_mem_steps hs).trans hhost)).mp h).2
  rcases mem_keys_of_steps hhost hrun hkey with hold | hpasses
  · rw [hnew] at hold
    exact absurd hold List.not_mem_nil
  · exact hpasses

/-- What is dropped as a repeat follows a setting event with its key that was sent, or that nothing
but the rate limit dropped. It follows one that was sent exactly if the rate limit let one of those
pass that went past the table. -/
theorem repeat_follows_sent_or_throttled (hnew : p.state.settings.keys = [])
    {calls : List (Call κ)} {before later : List (Step HostState κ)} {s : Step HostState κ}
    (hrun : p.steps calls = before ++ s :: later) (h : s.Repeats) :
    (∃ t ∈ before, t.Passes ∧ t.settingKey = s.settingKey ∧
      t.outcome.dropped = t.outcome.throttled) ∧
    ((∃ t ∈ before, t.call.event.kind = .setting ∧ t.settingKey = s.settingKey ∧
        t.outcome.dropped = false) ↔
      ∃ t ∈ before, t.Passes ∧ t.settingKey = s.settingKey ∧ t.outcome.throttled = false) := by
  have hbefore : ∀ t ∈ before, t.processor.host = HostStage.standard := by
    intro t ht
    have hmem : t ∈ p.steps calls := hrun ▸ List.mem_append_left (s :: later) ht
    exact (host_of_mem_steps hmem).trans hhost
  refine ⟨?_, ?_, ?_⟩
  · obtain ⟨t, ht, hpasses, hkey⟩ := exists_passes_of_repeats hhost hnew hrun h
    exact ⟨t, ht, hpasses, hkey, hpasses.dropped_eq_throttled (hbefore t ht)⟩
  · rintro ⟨t, ht, hkind, hkey, hd⟩
    have hpasses : t.Passes := Step.passes_of_not_dropped (hbefore t ht) hkind hd
    exact ⟨t, ht, hpasses, hkey, (hpasses.dropped_eq_throttled (hbefore t ht)).symm.trans hd⟩
  · rintro ⟨t, ht, hpasses, hkey, hthrottled⟩
    exact ⟨t, ht, hpasses.kind, hkey,
      (hpasses.dropped_eq_throttled (hbefore t ht)).trans hthrottled⟩

end Processor

namespace Sample

def call (manifest : Manifest) (event : Event) : Call Nat :=
  ⟨.create "s", registry, manifest, 0, event⟩

/-- Without rules, a setting event gets to the table with the stamps only. -/
theorem asks_of_no_rules {p : Processor HostState Nat} (hhost : p.host = HostStage.standard)
    (manifest : Manifest) (hrules : manifest.actions = []) (event : Event)
    (hkind : event.kind = .setting) :
    let s : Step HostState Nat := ⟨p, call manifest event⟩
    s.Asks ∧ s.settingKey = HostStage.fingerprint event ∧
      HostStage.content s.asking = HostStage.content event := by
  intro s
  have hs : s.serving.host = HostStage.standard := hhost
  have hpass : s.passBefore .setting = s.serving.entry manifest event := by
    obtain ⟨id, name, timestamp, severity, kind, metric, friendly, names, bag, excluded⟩ := event
    cases hkind
    rw [Step.passBefore, Step.passBelow_eq_foldl hs]
    simp only [s, call, hrules]
    rfl
  have hcontent : HostStage.content s.asking = HostStage.content event := by
    rw [Step.asking, hpass]
    exact (HostStage.content_put_of_isReserved (by decide) _ _).trans
      (HostStage.content_put_of_isReserved (by decide) _ _)
  refine ⟨⟨hkind, ?_⟩, HostStage.fingerprint_congr hcontent, hcontent⟩
  rw [hpass]
  rfl

def theme : Event :=
  { pageView.put "Value" (.text "dark") with
    name := "Settings/Theme"
    kind := .setting }

def oneEvent : Manifest :=
  { Manifest.bundled with throttling := ⟨1, 3600⟩ }

end Sample

/-- The theme is posted once, and dropped as a repeat after that. -/
theorem theme_repeats_after_posted :
    let p := Processor.standard (.create "s") Sample.registry 0
    let first : Step HostState Nat := ⟨p, Sample.call Manifest.bundled Sample.theme⟩
    let second : Step HostState Nat := ⟨first.next, Sample.call Manifest.bundled Sample.theme⟩
    p.host = HostStage.standard ∧ p.state.settings.keys = [] ∧
      p.steps [first.call, second.call] = [first] ++ second :: [] ∧ second.Repeats ∧
      first.outcome.throttled = false ∧
      ∃ t ∈ [first], t.call.event.kind = .setting ∧ t.settingKey = second.settingKey ∧
        t.outcome.dropped = false := by
  intro p first second
  have hhost : p.host = HostStage.standard := Processor.host_standard _ _ _
  have hfirst : first.serving.host = HostStage.standard := hhost
  obtain ⟨hasks, hkey, -⟩ :=
    Sample.asks_of_no_rules hhost Manifest.bundled rfl Sample.theme rfl
  obtain ⟨hagain, hsame, -⟩ :=
    Sample.asks_of_no_rules (p := first.next) hhost Manifest.bundled rfl Sample.theme rfl
  have hpasses : first.Passes :=
    (Step.passes_iff hfirst).mpr ⟨hasks, List.not_mem_nil⟩
  have hthrottled : first.outcome.throttled = false := by
    rw [Step.outcome, Processor.process_fst_eq_foldl hfirst]
    decide +kernel
  have hrepeats : second.Repeats := hasks.repeats_next hfirst hagain (hsame.trans hkey.symm)
  have hrun : p.steps [first.call, second.call] = [first] ++ second :: [] := rfl
  have hspec := Processor.repeat_follows_sent_or_throttled hhost rfl hrun hrepeats
  exact ⟨hhost, rfl, hrun, hrepeats, hthrottled,
    hspec.2.mpr ⟨first, List.mem_singleton.mpr rfl, hpasses, hkey.trans hsame.symm, hthrottled⟩⟩

/-- A theme that only the rate limit has dropped is dropped as a repeat when it comes again, though
no setting event was sent before. -/
theorem theme_repeats_after_throttled :
    let p := Processor.standard (.create "s") Sample.registry 0
    let first : Step HostState Nat := ⟨p, Sample.call Sample.oneEvent Sample.pageView⟩
    let second : Step HostState Nat := ⟨first.next, Sample.call Sample.oneEvent Sample.theme⟩
    let third : Step HostState Nat := ⟨second.next, Sample.call Manifest.bundled Sample.theme⟩
    p.host = HostStage.standard ∧ p.state.settings.keys = [] ∧
      p.steps [first.call, second.call, third.call] = [first, second] ++ third :: [] ∧
      third.Repeats ∧
      ¬ ∃ t ∈ [first, second], t.call.event.kind = .setting ∧ t.settingKey = third.settingKey ∧
        t.outcome.dropped = false := by
  intro p first second third
  have hhost : p.host = HostStage.standard := Processor.host_standard _ _ _
  have hfirst : first.serving.host = HostStage.standard := hhost
  have hsecond : second.serving.host = HostStage.standard := hhost
  obtain ⟨hasks, hkey, -⟩ :=
    Sample.asks_of_no_rules (p := first.next) hhost Sample.oneEvent rfl Sample.theme rfl
  obtain ⟨hagain, hsame, -⟩ :=
    Sample.asks_of_no_rules (p := second.next) hhost Manifest.bundled rfl Sample.theme rfl
  have hstate : first.next.state = ⟨.create SettingTable.standardCapacity, ⟨0, 1⟩⟩ := by
    rw [Step.state_next, Step.passAfter, Step.passBelow_eq_foldl hfirst]
    decide +kernel
  have hrepeats : third.Repeats := hasks.repeats_next hsecond hagain (hsame.trans hkey.symm)
  have hdropped : second.outcome.dropped = true := by
    -- The state that the first call leaves is put in before the second call is evaluated.
    rw [Step.outcome, Processor.process_fst_eq_foldl hsecond, Processor.entry]
    change (Processor.outcome _ (List.foldl _ ⟨_, _, first.next.state⟩ _)).dropped = true
    rw [hstate]
    decide +kernel
  refine ⟨hhost, rfl, rfl, hrepeats, ?_⟩
  rintro ⟨t, ht, hkind, -, hd⟩
  rcases List.mem_cons.mp ht with rfl | ht
  · exact absurd hkind (by decide)
  · rw [List.mem_singleton.mp ht, hdropped] at hd
    exact absurd hd (by decide)

end EventGate
