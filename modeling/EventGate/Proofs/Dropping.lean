import EventGate.Proofs.OptOut

/-! # What drops an event

Five stages can drop an event, and the rate limit alone marks it as throttled. Behind the settings
only the rate limit is left to drop an event.
-/

namespace EventGate

open Stage

/-- Whether the stage of a place can drop an event. -/
def Priority.drops : Priority → Bool
  | manifestExclude | manifestOptOut | metric | setting | generalThrottling => true
  | _ => false

/-- A stage that cannot drop an event cannot mark it as throttled either. -/
theorem flags_effect {place : Priority} (hplace : place.drops = false) (actions : List Action)
    (around : Surroundings) (pass : Pass HostState) :
    ((place.stage actions).effect around pass).context.dropped = pass.context.dropped ∧
      ((place.stage actions).effect around pass).context.throttled = pass.context.throttled := by
  cases place with
  | customOptOut =>
    rw [Priority.stage, HostStage.effect_customOptOut]
    split
    · exact ⟨rfl, rfl⟩
    · split <;> exact ⟨rfl, rfl⟩
  | manifestThrottling =>
    rw [Priority.stage, ManifestStage.effect_throttling]
    split <;> exact ⟨rfl, rfl⟩
  | manifestPersonal =>
    rw [Priority.stage, ManifestStage.effect_markPersonal]
    split <;> exact ⟨rfl, rfl⟩
  | personal =>
    rw [Priority.stage, HostStage.effect_personal]
    split <;> exact ⟨rfl, rfl⟩
  | restriction =>
    rw [Priority.stage, HostStage.effect_restriction]
    split
    · exact ⟨rfl, rfl⟩
    · rw [Context.excludeChannels_eq]
      exact ⟨rfl, rfl⟩
  | structured =>
    rw [Priority.stage, HostStage.effect_structured]
    split <;> exact ⟨rfl, rfl⟩
  | suppressEmpty =>
    rw [Priority.stage, HostStage.effect_suppressEmpty]
    split <;> exact ⟨rfl, rfl⟩
  | manifestRoute =>
    rw [Priority.stage, ManifestStage.effect_route]
    split <;> exact ⟨rfl, rfl⟩
  | manifestExclude | manifestOptOut | metric | setting | generalThrottling =>
    exact absurd hplace.symm Bool.false_ne_true

theorem throttled_effect {place : Priority} (hplace : place ≠ .generalThrottling)
    (actions : List Action) (around : Surroundings) (pass : Pass HostState) :
    ((place.stage actions).effect around pass).context.throttled = pass.context.throttled := by
  cases place with
  | manifestExclude =>
    rw [Priority.stage, ManifestStage.effect_exclude]
    split
    · rfl
    · rw [ManifestStage.excludeBy_eq]
  | manifestOptOut =>
    rw [Priority.stage, ManifestStage.effect_optOut]
    split
    · rfl
    · split <;> rfl
  | metric =>
    rw [Priority.stage, HostStage.effect_metric]
    split
    · rfl
    · split <;> rfl
  | setting =>
    rw [Priority.stage, HostStage.effect_setting]
    split
    · rfl
    · dsimp only
      split <;> rfl
  | generalThrottling => exact absurd rfl hplace
  | customOptOut | manifestThrottling | manifestPersonal | personal | restriction | structured
  | suppressEmpty | manifestRoute => exact (flags_effect rfl actions around pass).2

theorem dropped_effect_throttling (actions : List Action) (around : Surroundings)
    {pass : Pass HostState} (h : pass.context.dropped = pass.context.throttled) :
    ((Priority.generalThrottling.stage actions).effect around pass).context.dropped =
      ((Priority.generalThrottling.stage actions).effect around pass).context.throttled := by
  rw [Priority.stage, HostStage.effect_throttling]
  split
  · exact h
  · dsimp only
    split
    · exact h
    · rfl

namespace Processor

variable {κ : Type} {p : Processor HostState κ}

section

variable (hhost : p.host = HostStage.standard) (manifest : Manifest) (now : Nat) (event : Event)

include hhost

theorem throttled_passBelow {bound : Nat} (hbound : bound ≤ Priority.generalThrottling.value) :
    (p.passBelow manifest now event bound).context.throttled = false :=
  part_before_place hhost manifest now event (fun pass => pass.context.throttled)
    .generalThrottling (fun _ hq actions around pass => throttled_effect hq actions around pass)
    hbound

/-- An event that passes the settings is dropped only if it is throttled. -/
theorem dropped_eq_throttled
    (hd : (p.passAfter manifest now event .setting).context.dropped = false) :
    (p.process manifest now event).1.dropped = (p.process manifest now event).1.throttled := by
  have hthrottled : (p.passAfter manifest now event .setting).context.throttled = false :=
    throttled_passBelow hhost manifest now event (by decide)
  have hend : (p.passAfter manifest now event .manifestRoute).context.dropped =
      (p.passAfter manifest now event .manifestRoute).context.throttled := by
    refine passBelow_induction hhost manifest now event
      (motive := fun pass => pass.context.dropped = pass.context.throttled)
      (show Priority.setting.value + 1 ≤ Priority.manifestRoute.value + 1 by decide)
      (hd.trans hthrottled.symm) fun q hlow _ pass hpass => ?_
    by_cases hq : q = .generalThrottling
    · subst hq
      exact dropped_effect_throttling _ _ hpass
    · have hdrops : q.drops = false := by
        revert hlow hq
        cases q <;> decide
      have hflags := flags_effect hdrops manifest.actions (p.surroundings now) pass
      rw [hflags.1, hflags.2, hpass]
  rw [process_fst, dropped_outcome, throttled_outcome, ← hend, Bool.and_self]

end

end Processor

end EventGate
