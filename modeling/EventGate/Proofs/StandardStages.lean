import EventGate.Pipeline.Processor
import EventGate.Proofs.StageRun

/-! # The standard stages

What each standard stage does to a pass, in one equation for each, and the stage that stands at each
place. A manifest without rules of a kind has no stage for them, which comes to the same as a stage
without rules.
-/

namespace EventGate

open Stage

variable {σ : Type}

namespace Stage

theorem effect_stateless (place : Priority) (name : String)
    (run : Surroundings → Event → Context → Bool × Event × Context) (around : Surroundings)
    (pass : Pass σ) :
    (stateless place name run).effect around pass =
      { pass with
        event := (run around pass.event pass.context).2.1
        context := (run around pass.event pass.context).2.2 } := rfl

/-- A stage without a part in the state is sound if what it does to event and record is. -/
theorem sound_stateless {place : Priority} {name : String}
    {run : Surroundings → Event → Context → Bool × Event × Context}
    (idle : ∀ around event context, context.dropped = true →
      run around event context = (false, event, context))
    (stops : ∀ around event context, context.dropped = false →
      (run around event context).1 = !(run around event context).2.2.dropped) :
    Sound (stateless place name run : Stage σ) where
  idle around pass hd := by simp [stateless, idle around pass.event pass.context hd]
  stops around pass := by
    rw [effect_stateless]
    change (run around pass.event pass.context).1 = _
    cases hd : pass.context.dropped with
    | false => exact stops around pass.event pass.context hd
    | true => rw [idle around pass.event pass.context hd, hd, Bool.not_true]

end Stage

/-! ## Stages of a manifest -/

namespace Context

@[simp] theorem excludeChannels_nil (context : Context) : context.excludeChannels [] = context :=
  rfl

@[simp] theorem excludeChannels_cons (context : Context) (id : String) (ids : List String) :
    context.excludeChannels (id :: ids) = (context.excludeChannel id).excludeChannels ids := rfl

theorem excludeChannels_eq (context : Context) (ids : List String) :
    context.excludeChannels ids =
      { context with excludedChannels := (context.excludeChannels ids).excludedChannels } := by
  induction ids generalizing context with
  | nil => rfl
  | cons id rest ih =>
    rw [excludeChannels_cons, ih]
    rfl

@[simp] theorem dropped_excludeChannels (context : Context) (ids : List String) :
    (context.excludeChannels ids).dropped = context.dropped := by
  rw [excludeChannels_eq]

end Context

namespace ManifestStage

theorem excludeBy_fst (event : Event) (rules : List (Guarded (List String))) {context : Context}
    (hd : context.dropped = false) :
    (excludeBy event rules context).1 = !(excludeBy event rules context).2.dropped := by
  induction rules generalizing context with
  | nil => simp [excludeBy, hd]
  | cons rule rest ih =>
    unfold excludeBy
    split
    · split
      · rfl
      · exact ih (by rw [Context.dropped_excludeChannels, hd])
    · exact ih hd

theorem sound_exclude (rules : List (Guarded (List String))) :
    Sound (exclude rules : Stage σ) := by
  refine sound_stateless (fun _ _ _ hd => if_pos hd) (fun _ event context hd => ?_)
  rw [if_neg (by simp [hd])]
  exact excludeBy_fst event rules hd

theorem effect_exclude (rules : List (Guarded (List String))) (around : Surroundings)
    (pass : Pass σ) :
    (exclude rules).effect around pass =
      if pass.context.dropped then pass
      else { pass with context := (excludeBy pass.event rules pass.context).2 } := by
  rw [exclude, effect_stateless]
  split <;> rfl

theorem sound_optOut (rules : OptOutRules) : Sound (optOut rules : Stage σ) := by
  refine sound_stateless (fun _ _ _ hd => if_pos hd) (fun around event context hd => ?_)
  rw [if_neg (by simp [hd])]
  cases around.session.optedOut with
  | false => simp [hd]
  | true =>
    by_cases h : verdict rules event context.optOut = .allowed <;> simp [h, hd, Context.drop]

def denied (verdict : OptOutVerdict) (context : Context) : Context :=
  { context with optOut := verdict, dropped := true }

def filtered (rules : OptOutRules) (event : Event) : Event :=
  changeBy Event.excludeAll (changeBy Event.readmitAll event rules.allowedProperties)
    rules.deniedProperties

theorem effect_optOut (rules : OptOutRules) (around : Surroundings) (pass : Pass σ) :
    (optOut rules).effect around pass =
      if pass.context.dropped || !around.session.optedOut then pass
      else if verdict rules pass.event pass.context.optOut = .allowed then
        { pass with
          event := filtered rules pass.event
          context := { pass.context with optOut := .allowed } }
      else
        { pass with
          context := denied (verdict rules pass.event pass.context.optOut) pass.context } := by
  rw [optOut, effect_stateless]
  cases hd : pass.context.dropped with
  | true => simp
  | false =>
    cases around.session.optedOut with
    | false => simp
    | true =>
      by_cases h : verdict rules pass.event pass.context.optOut = .allowed
      · simp [hd, h, filtered]
      · simp [h, denied, Context.drop]

theorem sound_throttling (rules : List (Guarded ThrottlingDecision)) :
    Sound (throttling rules : Stage σ) :=
  sound_stateless (fun _ _ _ hd => if_pos hd) (fun _ _ _ hd => by simp [hd])

theorem effect_throttling (rules : List (Guarded ThrottlingDecision)) (around : Surroundings)
    (pass : Pass σ) :
    (throttling rules).effect around pass =
      if pass.context.dropped then pass
      else { pass with context := { pass.context with
        throttling := decision rules pass.event pass.context.throttling } } := by
  rw [throttling, effect_stateless]
  split <;> rfl

def markedBag (rules : List (Guarded (List String))) (event : Event) : Bag :=
  (namesBy rules event).foldl (fun bag name => bag.modify name marked) event.properties

theorem sound_markPersonal (rules : List (Guarded (List String))) :
    Sound (markPersonal rules : Stage σ) :=
  sound_stateless (fun _ _ _ hd => if_pos hd) (fun _ _ _ hd => by simp [hd])

theorem effect_markPersonal (rules : List (Guarded (List String))) (around : Surroundings)
    (pass : Pass σ) :
    (markPersonal rules).effect around pass =
      if pass.context.dropped then pass
      else { pass with event := { pass.event with
        properties := markedBag rules pass.event } } := by
  rw [markPersonal, effect_stateless]
  split <;> rfl

theorem sound_route (rules : List (Guarded (List RouteTarget))) :
    Sound (route rules : Stage σ) :=
  sound_stateless (fun _ _ _ hd => if_pos hd) (fun _ _ _ hd => by simp [hd])

theorem effect_route (rules : List (Guarded (List RouteTarget))) (around : Surroundings)
    (pass : Pass σ) :
    (route rules).effect around pass =
      if pass.context.dropped then pass
      else { pass with context := { pass.context with
        routes := pass.context.routes ++ routesBy rules pass.event } } := by
  rw [route, effect_stateless]
  split <;> rfl

end ManifestStage

/-! ## Stages of the host -/

namespace HostStage

theorem sound_customOptOut : Sound (customOptOut : Stage σ) := by
  refine sound_stateless (fun _ _ _ hd => if_pos hd) (fun around event context hd => ?_)
  cases around.session.optedOut <;> cases event.friendly <;> simp [hd]

theorem effect_customOptOut (around : Surroundings) (pass : Pass σ) :
    customOptOut.effect around pass =
      if pass.context.dropped || !around.session.optedOut then pass
      else if pass.event.friendly then
        { pass with
          event := pass.event.excludeAll (unfriendly pass.event)
          context := { pass.context with optOut := .allowed } }
      else { pass with context := { pass.context with optOut := .denied } } := by
  rw [customOptOut, effect_stateless]
  cases hd : pass.context.dropped with
  | true => simp
  | false => cases around.session.optedOut <;> cases pass.event.friendly <;> simp [hd]

def stamped (event : Event) (metric : Metric) : Event :=
  (event.put metricNameProperty (.text metric.name)).put metricValueProperty
    (.number metric.value)

def measurement? (event : Event) : Option Metric :=
  event.metric.filter fun metric => metric.value.isFinite

theorem sound_metric : Sound (metric : Stage σ) := by
  refine sound_stateless (fun _ _ _ hd => if_pos hd) (fun _ event context hd => ?_)
  rw [if_neg (by simp [hd])]
  by_cases hk : event.kind = .metric
  · cases hm : event.metric with
    | none => simp [hk, Context.drop]
    | some metric => cases hf : metric.value.isFinite <;> simp [hk, hf, hd, Context.drop]
  · simp [hk, hd]

theorem effect_metric (around : Surroundings) (pass : Pass σ) :
    metric.effect around pass =
      if pass.context.dropped || decide (pass.event.kind ≠ .metric) then pass
      else
        match measurement? pass.event with
        | none => { pass with context := pass.context.drop }
        | some measured => { pass with event := stamped pass.event measured } := by
  rw [metric, effect_stateless]
  cases pass.context.dropped with
  | true => simp
  | false =>
    by_cases hk : pass.event.kind = .metric
    · unfold measurement?
      cases pass.event.metric with
      | none => simp [hk]
      | some measured =>
        cases hf : measured.value.isFinite <;> simp [hk, hf, Option.filter, stamped]
    · simp [hk]

theorem sound_setting : Sound setting where
  idle _ _ hd := if_pos hd
  stops around pass := by
    unfold effect setting
    cases hd : pass.context.dropped with
    | true => simp [hd]
    | false =>
      by_cases hk : pass.event.kind = .setting
      · cases hn : (pass.state.settings.observe (fingerprint pass.event)).1 <;>
          simp [hk, hn, hd, Context.drop]
      · simp [hk, hd]

theorem effect_setting (around : Surroundings) (pass : Pass HostState) :
    setting.effect around pass =
      if pass.context.dropped || decide (pass.event.kind ≠ .setting) then pass
      else
        let observed := pass.state.settings.observe (fingerprint pass.event)
        { pass with
          state := { pass.state with settings := observed.2 }
          context := if observed.1 then pass.context else pass.context.drop } := by
  unfold effect setting
  cases hd : pass.context.dropped with
  | true => simp [hd]
  | false =>
    by_cases hk : pass.event.kind = .setting
    · cases hn : (pass.state.settings.observe (fingerprint pass.event)).1 <;> simp [hd, hk, hn]
    · simp [hd, hk]

theorem sound_personal : Sound (personal : Stage σ) :=
  sound_stateless (fun _ _ _ hd => if_pos hd) (fun _ _ _ hd => by simp [hd])

theorem effect_personal (around : Surroundings) (pass : Pass σ) :
    personal.effect around pass =
      if pass.context.dropped then pass
      else { pass with event := (Personal.hashAll around.session pass.event).1 } := by
  rw [personal, effect_stateless]
  split <;> rfl

/-- Whether an event has something to send that must not reach a restricted channel. -/
def sendsSensitive (event : Event) : Bool :=
  event.sent.any isSensitive

theorem sound_restriction : Sound (restriction : Stage σ) := by
  refine sound_stateless (fun _ _ _ hd => if_pos hd) (fun _ event context hd => ?_)
  rw [if_neg (by simp [hd])]
  cases hs : event.sent.any isSensitive <;> simp [hd]

theorem effect_restriction (around : Surroundings) (pass : Pass σ) :
    restriction.effect around pass =
      if pass.context.dropped || !sendsSensitive pass.event then pass
      else { pass with context := pass.context.excludeChannels around.restricted } := by
  rw [restriction, effect_stateless, sendsSensitive]
  cases pass.context.dropped with
  | true => simp
  | false => cases hs : pass.event.sent.any isSensitive <;> simp

theorem sound_structured : Sound (structured : Stage σ) :=
  sound_stateless (fun _ _ _ hd => if_pos hd) (fun _ _ _ hd => by simp [hd])

theorem effect_structured (around : Surroundings) (pass : Pass σ) :
    structured.effect around pass =
      if pass.context.dropped then pass
      else { pass with event := { pass.event with
        properties := pass.event.properties.mapValues rendered } } := by
  rw [structured, effect_stateless]
  split <;> rfl

theorem sound_suppressEmpty : Sound (suppressEmpty : Stage σ) :=
  sound_stateless (fun _ _ _ hd => if_pos hd) (fun _ _ _ hd => by simp [hd])

theorem effect_suppressEmpty (around : Surroundings) (pass : Pass σ) :
    suppressEmpty.effect around pass =
      if pass.context.dropped then pass
      else { pass with event := pass.event.excludeAll (emptyNames pass.event) } := by
  rw [suppressEmpty, effect_stateless]
  split <;> rfl

def counted (around : Surroundings) (pass : Pass HostState) : Bool × RateWindow :=
  let limit := pass.context.manifest.throttling
  pass.state.window.enter around.now (1000 * limit.windowSeconds) limit.threshold

theorem sound_throttling : Sound throttling where
  idle _ _ hd := if_pos hd
  stops around pass := by
    unfold effect throttling
    cases hd : pass.context.dropped with
    | true => simp [hd]
    | false =>
      by_cases ht : pass.context.throttling = .doNotThrottle
      · simp [ht, hd]
      · cases hc : (counted around pass).1 <;> unfold counted at hc <;>
          simp [hd, ht, hc, Context.throttle]

theorem effect_throttling (around : Surroundings) (pass : Pass HostState) :
    throttling.effect around pass =
      if pass.context.dropped || decide (pass.context.throttling = .doNotThrottle) then pass
      else
        { pass with
          state := { pass.state with window := (counted around pass).2 }
          context := if (counted around pass).1 then pass.context else pass.context.throttle } := by
  unfold effect throttling
  cases hd : pass.context.dropped with
  | true => simp [hd]
  | false =>
    by_cases ht : pass.context.throttling = .doNotThrottle
    · simp [hd, ht]
    · cases hc : (counted around pass).1 <;> unfold counted at hc <;> simp [hd, ht, hc, counted]

end HostStage

end EventGate
