import EventGate.Proofs.Repeats

/-! # Settings that are told apart

The properties of an event keep proper names up to the table of settings, so a setting event that is
dropped as a repeat reads like one that went past the table.
-/

namespace EventGate

open Stage

namespace Event

theorem isWellNamed_of_names {a b : Event} (h : a.isWellNamed = true) (hcore : b.core = a.core)
    (hnames : b.properties.names = a.properties.names) : b.isWellNamed = true := by
  have hparts : b.core.name = a.core.name := congrArg Event.name hcore
  have hname : b.name = a.name := hparts
  rw [isWellNamed, hname, hnames]
  exact h

end Event

/-- Before the hashing, the stages leave the names proper. -/
theorem isWellNamed_effect {place : Priority} (hplace : place.value < Priority.personal.value)
    (actions : List Action) (around : Surroundings) {pass : Pass HostState}
    (h : pass.event.isWellNamed = true) :
    ((place.stage actions).effect around pass).event.isWellNamed = true := by
  have hkeeps : Keeps place pass ((place.stage actions).effect around pass) :=
    keeps_effect place actions around pass
  cases place with
  | manifestPersonal =>
    rw [Priority.stage, ManifestStage.effect_markPersonal]
    split
    · exact h
    · exact Event.isWellNamed_of_names h rfl (ManifestStage.names_markedBag _ pass.event)
  | metric =>
    rw [Priority.stage, HostStage.effect_metric]
    split
    · exact h
    · split
      · exact h
      · exact Event.isWellNamed_put (Event.isWellNamed_put h (by decide) _) (by decide) _
  | personal | restriction | structured | suppressEmpty | generalThrottling | manifestRoute =>
    exact absurd hplace (by decide)
  | manifestExclude | customOptOut | manifestOptOut | manifestThrottling | setting =>
    exact Event.isWellNamed_of_names h hkeeps.core
      (congrArg Bag.names (hkeeps.properties (by decide) (by decide) (by decide) (by decide)))

theorem Step.isWellNamed_asking {κ : Type} {s : Step HostState κ}
    (hhost : s.serving.host = HostStage.standard) (h : s.call.event.isWellNamed = true) :
    s.asking.isWellNamed = true := by
  refine Processor.passBelow_induction hhost _ _ _
    (motive := fun pass => pass.event.isWellNamed = true) (Nat.zero_le _) ?_
    fun q _ hq pass hpass => isWellNamed_effect (Nat.lt_trans hq (by decide)) _ _ hpass
  rw [Processor.passBelow_zero]
  exact Event.isWellNamed_put (Event.isWellNamed_put h (by decide) _) (by decide) _

/-- Two events with proper names have the same fingerprint exactly if they read the same, that is,
exactly if they have the same content unless a value of one of them looks like a field. So in a run
of such events, what is dropped as a repeat follows an event that went past the table and reads the
same. -/
theorem HostStage.fingerprint_tells_settings_apart {a b : Event} (ha : a.isWellNamed = true)
    (hb : b.isWellNamed = true) {κ : Type} {p : Processor HostState κ} (hhost : p.host = standard)
    (hnew : p.state.settings.keys = []) {calls : List (Call κ)}
    (hnamed : ∀ call ∈ calls, call.event.kind = .setting → call.event.isWellNamed = true)
    {before later : List (Step HostState κ)} {s : Step HostState κ}
    (hrun : p.steps calls = before ++ s :: later) :
    (fingerprint a = fingerprint b ↔ reading a = reading b) ∧
    (TellsClearly a → TellsClearly b → (fingerprint a = fingerprint b ↔ content a = content b)) ∧
    (s.Repeats → ∃ t ∈ before, t.Passes ∧ reading t.asking = reading s.asking ∧
      (TellsClearly t.asking → TellsClearly s.asking → content t.asking = content s.asking)) := by
  refine ⟨fingerprint_eq_iff_reading_eq ha hb, fingerprint_eq_iff_content_eq ha hb, ?_⟩
  intro hrepeats
  have hproper : ∀ t ∈ p.steps calls, t.Asks → t.asking.isWellNamed = true := by
    intro t ht hasks
    exact Step.isWellNamed_asking ((Processor.host_of_mem_steps ht).trans hhost)
      (hnamed t.call (Processor.call_mem_of_mem_steps ht) hasks.kind)
  obtain ⟨t, ht, hpasses, hkey⟩ := Processor.exists_passes_of_repeats hhost hnew hrun hrepeats
  have hs : s.asking.isWellNamed = true :=
    hproper s (hrun ▸ List.mem_append_right before List.mem_cons_self) hrepeats.toAsks
  have hother : t.asking.isWellNamed = true :=
    hproper t (hrun ▸ List.mem_append_left (s :: later) ht) hpasses.toAsks
  exact ⟨t, ht, hpasses, (fingerprint_eq_iff_reading_eq hother hs).mp hkey,
    fun hclear hsclear => (fingerprint_eq_iff_content_eq hother hs hclear hsclear).mp hkey⟩

namespace Sample

def pairedTheme : Event :=
  { (pageView.put "a" (.text "1")).put "b" (.text "2") with
    name := "Settings/Theme"
    kind := .setting }

/-- A theme of one property, with a value that looks like a further field. -/
def joinedTheme : Event :=
  { pageView.put "a" (.text "1|b=2") with
    name := "Settings/Theme"
    kind := .setting }

end Sample

/-- The theme is told apart from that of two properties, and what it repeats has its content. -/
theorem theme_told_apart :
    let p := Processor.standard (.create "s") Sample.registry 0
    let first : Step HostState Nat := ⟨p, Sample.call Manifest.bundled Sample.theme⟩
    let second : Step HostState Nat := ⟨first.next, Sample.call Manifest.bundled Sample.theme⟩
    HostStage.fingerprint Sample.theme ≠ HostStage.fingerprint Sample.pairedTheme ∧
      second.Repeats ∧
      ∃ t ∈ [first], t.Passes ∧ HostStage.content t.asking = HostStage.content second.asking := by
  intro p first second
  have hhost : p.host = HostStage.standard := Processor.host_standard _ _ _
  have htheme : Sample.theme.isWellNamed = true := by decide +kernel
  have hclear : HostStage.TellsClearly Sample.theme := by decide +kernel
  obtain ⟨hasks, hkey, hcontent⟩ :=
    Sample.asks_of_no_rules hhost Manifest.bundled rfl Sample.theme rfl
  obtain ⟨hagain, hsame, hother⟩ :=
    Sample.asks_of_no_rules (p := first.next) hhost Manifest.bundled rfl Sample.theme rfl
  have hfirst : first.serving.host = HostStage.standard := hhost
  have hrepeats : second.Repeats := hasks.repeats_next hfirst hagain (hsame.trans hkey.symm)
  have hpaired : Sample.pairedTheme.isWellNamed = true := by decide +kernel
  have hnamed : ∀ call ∈ [first.call, second.call],
      call.event.kind = .setting → call.event.isWellNamed = true := by
    intro call hcall _
    rcases List.mem_cons.mp hcall with rfl | hcall
    · exact htheme
    · rw [List.mem_singleton.mp hcall]
      exact htheme
  have hrun : p.steps [first.call, second.call] = [first] ++ second :: [] := rfl
  obtain ⟨-, hcontents, hruns⟩ :=
    HostStage.fingerprint_tells_settings_apart htheme hpaired hhost rfl hnamed hrun
  refine ⟨fun h => ?_, hrepeats, ?_⟩
  · exact absurd ((hcontents hclear (by decide +kernel)).mp h) (by decide +kernel)
  · obtain ⟨t, ht, hpasses, -, hsettles⟩ := hruns hrepeats
    refine ⟨t, ht, hpasses, hsettles ?_ ((HostStage.tellsClearly_congr hother).mpr hclear)⟩
    rw [List.mem_singleton.mp ht]
    exact (HostStage.tellsClearly_congr hcontent).mpr hclear

/-- A theme is dropped as a repeat of one with other properties, as the value of one of its
properties looks like a further field. -/
theorem joinedTheme_repeats_pairedTheme :
    let p := Processor.standard (.create "s") Sample.registry 0
    let first : Step HostState Nat := ⟨p, Sample.call Manifest.bundled Sample.pairedTheme⟩
    let second : Step HostState Nat :=
      ⟨first.next, Sample.call Manifest.bundled Sample.joinedTheme⟩
    p.steps [first.call, second.call] = [first, second] ∧
      first.call.event.isWellNamed = true ∧ second.call.event.isWellNamed = true ∧
      first.settingKey = second.settingKey ∧
      HostStage.content first.asking ≠ HostStage.content second.asking ∧ second.Repeats := by
  intro p first second
  have hhost : p.host = HostStage.standard := Processor.host_standard _ _ _
  obtain ⟨hasks, hkey, hcontent⟩ :=
    Sample.asks_of_no_rules hhost Manifest.bundled rfl Sample.pairedTheme rfl
  obtain ⟨hagain, hsame, hother⟩ :=
    Sample.asks_of_no_rules (p := first.next) hhost Manifest.bundled rfl Sample.joinedTheme rfl
  have hfirst : first.serving.host = HostStage.standard := hhost
  have hkeys : second.settingKey = first.settingKey := by
    rw [hsame, hkey]
    decide +kernel
  refine ⟨rfl, by decide +kernel, by decide +kernel, hkeys.symm, ?_,
    hasks.repeats_next hfirst hagain hkeys⟩
  rw [hcontent, hother]
  decide +kernel

end EventGate
