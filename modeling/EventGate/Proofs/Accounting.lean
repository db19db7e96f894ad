import EventGate.Pipeline.Gate
import EventGate.Proofs.RateLimit

/-! # Counts of a run, and what dropped events leave behind

The counts of a processor are those of the outcomes that it gave. A dropped event was dropped at one
place; the stages behind it never saw the event, so what they remember is as before.
-/

namespace EventGate

open Stage

/-! ## Where an event is dropped -/

namespace Processor

section

variable {κ : Type} {p : Processor HostState κ} (hhost : p.host = HostStage.standard)
  (manifest : Manifest) (now : Nat) (event : Event)

include hhost

/-- Behind the place where it is dropped nothing happens to an event. -/
theorem passBelow_of_dropped {a b : Nat} (hab : a ≤ b)
    (hd : (p.passBelow manifest now event a).context.dropped = true) :
    p.passBelow manifest now event b = p.passBelow manifest now event a :=
  passBelow_induction hhost manifest now event
    (motive := fun pass => pass = p.passBelow manifest now event a) hab rfl
    fun q _ _ pass hpass => by
      rw [hpass]
      exact (q.sound_stage manifest.actions).effect_of_dropped hd

/-- From one bound to the next there is one stage at most, so an event that comes to be dropped is
dropped by the stage of a place. -/
theorem exists_place_of_dropped {bound : Nat}
    (hd : (p.passBelow manifest now event bound).context.dropped = true) :
    ∃ place, (p.passBefore manifest now event place).context.dropped = false ∧
      (p.passAfter manifest now event place).context.dropped = true := by
  induction bound with
  | zero =>
    rw [passBelow_zero] at hd
    exact absurd hd Bool.false_ne_true
  | succ n ih =>
    cases hn : (p.passBelow manifest now event n).context.dropped with
    | true => exact ih hn
    | false =>
      by_cases hplace : ∃ place : Priority, place.value = n
      · obtain ⟨place, rfl⟩ := hplace
        exact ⟨place, hn, hd⟩
      · have hsame := passBelow_congr hhost manifest now event (fun pass => pass.context.dropped)
          (Nat.le_succ n) fun q hlow hhigh _ =>
            absurd ⟨q, Nat.le_antisymm (Nat.le_of_lt_succ hhigh) hlow⟩ hplace
        rw [hsame, hn] at hd
        exact absurd hd Bool.false_ne_true

end

end Processor

namespace Step

variable {κ : Type}

/-- The stage of a place drops the event of a call. -/
def DropsAt {σ : Type} (s : Step σ κ) (place : Priority) : Prop :=
  (s.passBefore place).context.dropped = false ∧ (s.passAfter place).context.dropped = true

def gate {σ : Type} (s : Step σ Nat) (inboxes : Inboxes) : Gate σ :=
  ⟨s.serving, inboxes, s.call.manifest⟩

theorem dropped_outcome (s : Step σ κ) :
    s.outcome.dropped = (s.passAfter .manifestRoute).context.dropped := by
  rw [outcome, Processor.process_fst, Processor.dropped_outcome]
  rfl

section

variable {s : Step HostState κ} (hhost : s.serving.host = HostStage.standard)

include hhost

theorem exists_dropsAt (hd : s.outcome.dropped = true) : ∃ place, s.DropsAt place := by
  rw [dropped_outcome] at hd
  exact Processor.exists_place_of_dropped hhost _ _ _ hd

namespace DropsAt

variable {place : Priority} (h : s.DropsAt place)

include h

theorem passAfter_route : s.passAfter .manifestRoute = s.passAfter place :=
  Processor.passBelow_of_dropped hhost _ _ _ (Nat.succ_le_succ place.value_le) h.2

theorem dropped_outcome : s.outcome.dropped = true := by
  rw [Step.dropped_outcome, h.passAfter_route hhost]
  exact h.2

theorem drops : place.drops = true := by
  cases hdrops : place.drops with
  | true => rfl
  | false =>
    have hsame := (flags_effect hdrops s.call.manifest.actions
      (s.serving.surroundings s.call.now) (s.passBefore place)).1
    rw [← passAfter_eq hhost, h.1] at hsame
    exact absurd (hsame.symm.trans h.2) Bool.false_ne_true

theorem throttled_iff : s.outcome.throttled = true ↔ place = .generalThrottling := by
  have houtcome : s.outcome.throttled = (s.passAfter place).context.throttled := by
    rw [outcome, Processor.process_fst, Processor.throttled_outcome]
    have hend : (s.serving.passAfter s.call.manifest s.call.now s.call.event .manifestRoute) =
        s.passAfter place := h.passAfter_route hhost
    rw [hend, h.2, Bool.true_and]
  rw [houtcome]
  constructor
  · intro hthrottled
    have hplace := h.drops hhost
    by_cases hlow : place.value + 1 ≤ Priority.generalThrottling.value
    · have hnone : (s.passAfter place).context.throttled = false :=
        Processor.throttled_passBelow hhost _ _ _ hlow
      exact absurd (hnone.symm.trans hthrottled) Bool.false_ne_true
    · revert hlow hplace
      cases place <;> decide
  · rintro rfl
    have hbefore : (s.passBefore .generalThrottling).context.throttled = false :=
      Processor.throttled_passBelow hhost _ _ _ (Nat.le_refl _)
    have hflags := dropped_effect_throttling s.call.manifest.actions
      (s.serving.surroundings s.call.now) (h.1.trans hbefore.symm)
    rw [← passAfter_eq hhost] at hflags
    exact hflags.symm.trans h.2

/-- An event that is dropped before the table of settings leaves the table as it was. -/
theorem settings_next (hplace : place.value < Priority.setting.value) :
    s.next.state.settings = s.processor.state.settings := by
  rw [state_next, h.passAfter_route hhost]
  exact Processor.part_before_place hhost _ _ _ (fun pass => pass.state.settings) .setting
    settings_effect hplace

theorem window_next (hplace : place.value < Priority.generalThrottling.value) :
    s.next.state.window = s.processor.state.window := by
  rw [state_next, h.passAfter_route hhost]
  exact Processor.part_before_place hhost _ _ _ (fun pass => pass.state.window) .generalThrottling
    window_effect hplace

theorem state_next (hplace : place.value < Priority.setting.value) :
    s.next.state = s.processor.state := by
  have hparts : s.next.state = ⟨s.next.state.settings, s.next.state.window⟩ := rfl
  rw [hparts, h.settings_next hhost hplace, h.window_next hhost (Nat.lt_trans hplace (by decide))]

end DropsAt

end

theorem dropped_of_throttled {σ : Type} {s : Step σ κ} (h : s.outcome.throttled = true) :
    s.outcome.dropped = true := by
  rw [outcome, Processor.process_fst, Processor.throttled_outcome, Bool.and_eq_true] at h
  rw [outcome, Processor.process_fst, Processor.dropped_outcome, h.1]

theorem inboxes_post_of_dropped {σ : Type} {s : Step σ Nat} (hd : s.outcome.dropped = true)
    (inboxes : Inboxes) :
    ((s.gate inboxes).post s.call.now s.call.event).2.inboxes = inboxes := by
  change inboxes.deliver s.outcome.event s.outcome.deliveries = inboxes
  rw [dropped_outcome] at hd
  have hnone : s.outcome.deliveries = [] := by
    rw [outcome, Processor.process_fst, Processor.deliveries_outcome]
    exact if_pos hd
  rw [hnone, Inboxes.deliver_nil]

end Step

/-! ## Counts -/

namespace Outcome

variable {κ : Type}

/-- Whether an event was dropped otherwise than by the rate limit. -/
def isRefused (outcome : Outcome κ) : Bool :=
  outcome.dropped && !outcome.throttled

def isRouted (outcome : Outcome κ) : Bool :=
  !outcome.dropped && !outcome.routes.isEmpty

end Outcome

namespace Processor

variable {σ κ : Type}

/-- An outcome adds one to the events, and one to the count of its kind. -/
theorem count_eq (stats : Stats) {outcome : Outcome κ}
    (h : outcome.throttled = true → outcome.dropped = true) :
    count stats outcome =
      ⟨stats.posted + 1, stats.dropped + outcome.isRefused.toNat,
        stats.throttled + outcome.throttled.toNat, stats.routed + outcome.isRouted.toNat⟩ := by
  unfold count Outcome.isRefused Outcome.isRouted
  cases hd : outcome.dropped with
  | true => cases outcome.throttled <;> simp
  | false =>
    cases ht : outcome.throttled with
    | true => exact absurd (hd.symm.trans (h ht)) Bool.false_ne_true
    | false => cases outcome.routes.isEmpty <;> simp

theorem stats_after (p : Processor σ κ) (calls : List (Call κ)) :
    (p.after calls).stats =
      ⟨p.stats.posted + (p.steps calls).length,
        p.stats.dropped + (p.steps calls).countP fun s => s.outcome.isRefused,
        p.stats.throttled + (p.steps calls).countP fun s => s.outcome.throttled,
        p.stats.routed + (p.steps calls).countP fun s => s.outcome.isRouted⟩ := by
  induction calls generalizing p with
  | nil => rfl
  | cons call rest ih =>
    have hnext : (Step.next ⟨p, call⟩).stats = count p.stats (Step.outcome ⟨p, call⟩) := rfl
    rw [after_cons, ih, hnext, count_eq p.stats Step.dropped_of_throttled, steps_cons]
    simp only [List.countP_cons, List.length_cons, Stats.mk.injEq]
    have hcount (b : Bool) (m n : Nat) : m + b.toNat + n = m + (n + if b then 1 else 0) := by
      cases b <;> simp [Nat.add_comm, Nat.add_left_comm]
    exact ⟨by omega, hcount _ _ _, hcount _ _ _, hcount _ _ _⟩

/-- Each event of a run was refused, throttled or not dropped. -/
theorem length_steps_eq_add (p : Processor σ κ) (calls : List (Call κ)) :
    (p.steps calls).length =
      ((p.steps calls).countP fun s => s.outcome.isRefused) +
        ((p.steps calls).countP fun s => s.outcome.throttled) +
        (p.steps calls).countP fun s => !s.outcome.dropped := by
  induction calls generalizing p with
  | nil => rfl
  | cons call rest ih =>
    have hthrottled : (Step.outcome ⟨p, call⟩).throttled = true →
        (Step.outcome ⟨p, call⟩).dropped = true := Step.dropped_of_throttled
    rw [steps_cons, List.length_cons, ih]
    simp only [List.countP_cons, Outcome.isRefused]
    revert hthrottled
    cases (Step.outcome ⟨p, call⟩).dropped <;> cases (Step.outcome ⟨p, call⟩).throttled <;>
      simp <;> omega

/-- The counts of a run that starts without any are those of its outcomes. A dropped event comes to
no inbox, and was dropped at one of five places, of which the rate limit is the only one that
throttles. If it was dropped before the table of settings, the stages remember what they did before
the call; if it was dropped by the table, the window of the rate limit is as before. -/
theorem stats_match_outcomes {p : Processor HostState Nat} (hhost : p.host = HostStage.standard)
    (hstats : p.stats = .zero) (calls : List (Call Nat)) :
    let run := p.steps calls
    let stats := (p.after calls).stats
    stats.posted = calls.length ∧
    stats.throttled = (run.countP fun s => s.outcome.throttled) ∧
    stats.dropped = (run.countP fun s => s.outcome.dropped && !s.outcome.throttled) ∧
    stats.routed = (run.countP fun s => !s.outcome.dropped && !s.outcome.routes.isEmpty) ∧
    stats.posted = stats.dropped + stats.throttled + (run.countP fun s => !s.outcome.dropped) ∧
    ∀ s ∈ run,
      (s.outcome.throttled = true → s.outcome.dropped = true) ∧
      (s.outcome.dropped = true →
        (∀ inboxes, ((s.gate inboxes).post s.call.now s.call.event).2.inboxes = inboxes) ∧
        ∃ place, s.DropsAt place) ∧
      ∀ place, s.DropsAt place →
        s.outcome.dropped = true ∧
        place ∈ [Priority.manifestExclude, .manifestOptOut, .metric, .setting,
          .generalThrottling] ∧
        (s.outcome.throttled = true ↔ place = .generalThrottling) ∧
        (place ∈ [Priority.manifestExclude, .manifestOptOut, .metric] →
          s.next.state = s.processor.state) ∧
        (place = .setting → s.next.state.window = s.processor.state.window) := by
  intro run stats
  have hcounts : stats = _ := stats_after p calls
  rw [hstats] at hcounts
  have hposted : stats.posted = calls.length := by
    rw [hcounts, ← length_steps p calls]
    exact Nat.zero_add _
  have hrefused : stats.dropped = run.countP fun s => s.outcome.isRefused := by
    rw [hcounts]
    exact Nat.zero_add _
  have hthrottled : stats.throttled = run.countP fun s => s.outcome.throttled := by
    rw [hcounts]
    exact Nat.zero_add _
  have hrouted : stats.routed = run.countP fun s => s.outcome.isRouted := by
    rw [hcounts]
    exact Nat.zero_add _
  refine ⟨hposted, hthrottled, hrefused, hrouted, ?_, fun s hs => ?_⟩
  · rw [hposted, hrefused, hthrottled, ← length_steps p calls]
    exact length_steps_eq_add p calls
  · have hserving : s.serving.host = HostStage.standard := (host_of_mem_steps hs).trans hhost
    refine ⟨Step.dropped_of_throttled, fun hd => ⟨Step.inboxes_post_of_dropped hd,
      Step.exists_dropsAt hserving hd⟩, fun place h => ?_⟩
    refine ⟨h.dropped_outcome hserving, ?_, h.throttled_iff hserving, fun hearly => ?_, ?_⟩
    · have hdrops := h.drops hserving
      revert hdrops
      cases place <;> decide
    · refine h.state_next hserving ?_
      revert hearly
      cases place <;> decide
    · rintro rfl
      exact h.window_next hserving (by decide)

end Processor

namespace Sample

def onlyUrgent : Manifest :=
  { Manifest.bundled with actions :=
      [⟨some (.not (.property "Urgent" (.present true))), .excludeFrom ["*"]⟩,
        ⟨none, .route [⟨"ads", .property "Urgent"⟩]⟩] }

end Sample

/-- Of two page views, the urgent one is counted as routed and the other one as dropped, which comes
to no inbox and is not remembered. -/
theorem page_views_are_counted :
    let p := Processor.standard (.create "s") Sample.registry 0
    let first : Step HostState Nat := ⟨p, Sample.post 10 Sample.onlyUrgent Sample.urgent⟩
    let second : Step HostState Nat :=
      ⟨first.next, Sample.post 20 Sample.onlyUrgent Sample.pageView⟩
    let inboxes : Inboxes := [("Audit", []), ("Ads", [])]
    p.host = HostStage.standard ∧ p.stats = .zero ∧
      p.steps [first.call, second.call] = [first, second] ∧
      first.outcome.delivered = ["Audit", "Ads"] ∧
      second.DropsAt .manifestExclude ∧ second.next.state = second.processor.state ∧
      ((second.gate inboxes).post 20 Sample.pageView).2.inboxes = inboxes ∧
      (p.after [first.call, second.call]).stats = ⟨2, 1, 0, 1⟩ := by
  intro p first second inboxes
  have hhost : p.host = HostStage.standard := Processor.host_standard _ _ _
  have hfirst : first.outcome.delivered = ["Audit", "Ads"] ∧ first.outcome.dropped = false ∧
      first.outcome.throttled = false ∧ first.outcome.routes.isEmpty = false := by
    rw [Step.outcome, Processor.process_fst_eq_foldl (p := first.serving) hhost]
    decide +kernel
  have hplace : second.DropsAt .manifestExclude := by
    rw [Step.DropsAt, Step.passBefore, Step.passAfter,
      Step.passBelow_eq_foldl (s := second) hhost, Step.passBelow_eq_foldl (s := second) hhost]
    decide +kernel
  obtain ⟨hposted, hthrottled, hdropped, hrouted, -, hsteps⟩ :=
    Processor.stats_match_outcomes hhost rfl [first.call, second.call]
  obtain ⟨-, hquiet, hplaces⟩ := hsteps second (List.mem_cons_of_mem _ List.mem_cons_self)
  obtain ⟨hdrops, -, hlimit, hstate, -⟩ := hplaces _ hplace
  have hsecond : second.outcome.throttled = false := by
    rw [← Bool.not_eq_true, hlimit]
    decide
  refine ⟨hhost, rfl, rfl, hfirst.1, hplace, hstate (by decide), (hquiet hdrops).1 inboxes, ?_⟩
  have hrun : p.steps [first.call, second.call] = [first, second] := rfl
  rw [hrun] at hthrottled hdropped hrouted
  simp only [List.countP_cons, List.countP_nil, hfirst, hdrops, hsecond]
    at hthrottled hdropped hrouted
  have hparts (stats : Stats) :
      stats = ⟨stats.posted, stats.dropped, stats.throttled, stats.routed⟩ := rfl
  rw [hparts (p.after _).stats, hposted, hthrottled, hdropped, hrouted]
  rfl

end EventGate
