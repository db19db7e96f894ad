import EventGate.Proofs.Calls
import EventGate.Proofs.Delivery

/-! # The order of one pass

Which stages an event is shown to. The stages of the host and of the manifest, merged, stand as a
stable sort by place puts them, and of these an event meets all up to the first one that stops it.
-/

namespace EventGate

namespace Stage

variable {σ : Type}

/-! ## The stages that an event is shown to -/

/-- The pass as stages leave it, one after another. -/
def through (around : Surroundings) (stages : List (Stage σ)) (pass : Pass σ) : Pass σ :=
  stages.foldl (fun pass stage => stage.effect around pass) pass

/-- The stage, which also writes down that it ran. -/
def recording (stage : Stage σ) : Stage (σ × List (Stage σ)) :=
  stage.lift Prod.fst fun state own => (own, state.2 ++ [stage])

/-- The stages that write down that they ran when an event is sent through a list of stages. -/
def executed (around : Surroundings) (stages : List (Stage σ)) (pass : Pass σ) :
    List (Stage σ) :=
  (runAll around (stages.map recording) ⟨pass.event, pass.context, pass.state, []⟩).state.2

/-- Records do not change what becomes of an event. -/
theorem runAll_map_recording (around : Surroundings) (stages : List (Stage σ)) (pass : Pass σ)
    (record : List (Stage σ)) :
    runAll around (stages.map recording) ⟨pass.event, pass.context, pass.state, record⟩ =
      ⟨(runAll around stages pass).event, (runAll around stages pass).context,
        (runAll around stages pass).state, record ++ ran around stages pass⟩ := by
  induction stages generalizing pass record with
  | nil => simp [ran]
  | cons stage rest ih =>
    rcases hrun : stage.run around pass with ⟨goesOn, after⟩
    have hfirst :
        stage.recording.run around ⟨pass.event, pass.context, pass.state, record⟩ =
          (goesOn, ⟨after.event, after.context, after.state, record ++ [stage]⟩) := by
      simp [recording, lift, hrun]
    cases goesOn with
    | true => simp [runAll, ran, hrun, hfirst, ih after]
    | false => simp [runAll, ran, hrun, hfirst]

theorem executed_eq_ran (around : Surroundings) (stages : List (Stage σ)) (pass : Pass σ) :
    executed around stages pass = ran around stages pass := by
  rw [executed, runAll_map_recording, List.nil_append]

/-- The stages up to the first one that stops the event, or all of them if none does. -/
structure UpToStop (around : Surroundings) (stages : List (Stage σ)) (pass : Pass σ)
    (met : List (Stage σ)) : Prop where
  initial : met <+: stages
  /-- Behind a stage that is not the last one the event goes on. -/
  goesOn : ∀ before stage, before ++ [stage] <+: met → before ++ [stage] ≠ met →
    (stage.run around (through around before pass)).1 = true
  /-- If not all stages are met, the last one that is met stops the event. -/
  stops : met ≠ stages → ∃ before stage, met = before ++ [stage] ∧
    (stage.run around (through around before pass)).1 = false

theorem UpToStop.nil (around : Surroundings) (pass : Pass σ) : UpToStop around [] pass [] where
  initial := List.prefix_rfl
  goesOn before stage hinitial := by
    have hnil := List.prefix_nil.mp hinitial
    simp at hnil
  stops hne := absurd rfl hne

theorem UpToStop.singleton {around : Surroundings} {stage : Stage σ} {pass : Pass σ}
    (hrun : (stage.run around pass).1 = false) (rest : List (Stage σ)) :
    UpToStop around (stage :: rest) pass [stage] where
  initial := ⟨rest, rfl⟩
  goesOn before other hinitial hne := by
    have hlength : (before ++ [other]).length = [stage].length := by
      have hle : (before ++ [other]).length ≤ 1 := hinitial.length_le
      rw [List.length_append, List.length_singleton] at hle
      rw [List.length_append, List.length_singleton, List.length_singleton]
      omega
    exact absurd (hinitial.eq_of_length hlength) hne
  stops _ := ⟨[], stage, rfl, hrun⟩

theorem UpToStop.cons {around : Surroundings} {stage : Stage σ} {rest met : List (Stage σ)}
    {pass : Pass σ} (hrun : (stage.run around pass).1 = true)
    (h : UpToStop around rest (stage.effect around pass) met) :
    UpToStop around (stage :: rest) pass (stage :: met) where
  initial := (List.prefix_cons_inj stage).mpr h.initial
  goesOn before other hinitial hne := by
    cases before with
    | nil =>
      obtain ⟨rfl, -⟩ := List.cons_prefix_cons.mp hinitial
      exact hrun
    | cons first before =>
      obtain ⟨rfl, hrest⟩ := List.cons_prefix_cons.mp hinitial
      have hne' : before ++ [other] ≠ met := fun heq => hne (by rw [List.cons_append, heq])
      exact h.goesOn before other hrest hne'
  stops hne := by
    have hne' : met ≠ rest := fun heq => hne (by rw [heq])
    obtain ⟨before, last, hmet, hlast⟩ := h.stops hne'
    exact ⟨stage :: before, last, by rw [hmet, List.cons_append], hlast⟩

theorem upToStop_ran (around : Surroundings) (stages : List (Stage σ)) (pass : Pass σ) :
    UpToStop around stages pass (ran around stages pass) := by
  induction stages generalizing pass with
  | nil => exact .nil around pass
  | cons stage rest ih =>
    rcases hrun : stage.run around pass with ⟨goesOn, after⟩
    have hfirst : (stage.run around pass).1 = goesOn := by rw [hrun]
    have hafter : stage.effect around pass = after := by rw [effect, hrun]
    cases goesOn with
    | true =>
      have hrest := ih after
      rw [← hafter] at hrest
      have hran : ran around (stage :: rest) pass =
          stage :: ran around rest (stage.effect around pass) := by
        simp [ran, hrun, hafter]
      rw [hran]
      exact hrest.cons hfirst
    | false =>
      have hran : ran around (stage :: rest) pass = [stage] := by simp [ran, hrun]
      rw [hran]
      exact .singleton hfirst rest

/-! ## The order of the stages -/

/-- Merging with stages in order is sorting with them behind the others. -/
theorem merge_sort_eq (first : List (Stage σ)) {second : List (Stage σ)} (h : Ordered second) :
    merge (sort first) second = sort (first ++ second) := by
  refine Ordered.ext ((ordered_sort first).merge h) (ordered_sort (first ++ second)) ?_
  intro place
  rw [filter_isAt_merge (ordered_sort first), filter_isAt_sort, filter_isAt_sort,
    List.filter_append]

end Stage

namespace Manifest

variable {σ : Type}

/-- Each kind of rules has a place of its own. -/
theorem distinct_gathered (actions : List Action) :
    (gathered actions : List (Stage σ)).Pairwise fun a b => a.priority ≠ b.priority := by
  have hsub : (gathered actions : List (Stage σ)).Sublist
      [ManifestStage.optOut (optOutRules actions),
        ManifestStage.exclude (Guarded.select Effect.excludedChannels? actions),
        ManifestStage.throttling (Guarded.select Effect.throttlingDecision? actions),
        ManifestStage.markPersonal (Guarded.select Effect.personalNames? actions),
        ManifestStage.route (Guarded.select Effect.routeTargets? actions)] :=
    ((((List.Sublist.refl _).append (stageFor_sublist _ _ _)).append
      (stageFor_sublist _ _ _)).append (stageFor_sublist _ _ _)).append (stageFor_sublist _ _ _)
  refine List.Pairwise.sublist hsub ?_
  simp [ManifestStage.optOut, ManifestStage.exclude, ManifestStage.throttling,
    ManifestStage.markPersonal, ManifestStage.route, Stage.stateless]

theorem increasing_stages (manifest : Manifest) :
    (manifest.stages : List (Stage σ)).Pairwise fun a b =>
      a.priority.value < b.priority.value := by
  have hordered : Stage.Ordered (manifest.stages : List (Stage σ)) :=
    ordered_compile manifest.actions
  have hperm : (manifest.stages : List (Stage σ)).Perm (gathered manifest.actions) :=
    List.mergeSort_perm (gathered manifest.actions) Stage.before
  have hdistinct : (manifest.stages : List (Stage σ)).Pairwise fun a b =>
      a.priority ≠ b.priority :=
    (hperm.pairwise_iff fun hne => hne.symm).mpr (distinct_gathered manifest.actions)
  refine hordered.imp₂ (fun a b hbefore hne => ?_) hdistinct
  exact Nat.lt_of_le_of_ne ((Stage.before_iff a b).mp hbefore)
    fun hvalue => hne (Priority.value_injective hvalue)

theorem optOut_mem_stages (manifest : Manifest) :
    ManifestStage.optOut (optOutRules manifest.actions) ∈
      (manifest.stages : List (Stage σ)) := by
  rw [stages, compile, Stage.mem_sort]
  simp [gathered]

end Manifest

/-! ## One pass -/

open Stage

variable {σ κ : Type}

def Step.executed (s : Step σ κ) : List (Stage σ) :=
  Stage.executed (s.serving.surroundings s.call.now) (s.serving.stages s.call.manifest)
    (s.serving.entry s.call.manifest s.call.event)

/-- An event meets the stages of host and manifest in the order of a stable sort, each one once,
up to the first one that stops it, and becomes what these stages make of it. -/
theorem Processor.executed_up_to_first_stop {session : Session} {registry : Registry κ}
    {host : List (Stage σ)} {state : σ} {calls : List (Call κ)} {s : Step σ κ}
    (hs : s ∈ (Processor.create session registry host state).steps calls) :
    let stages := host ++ s.call.manifest.stages
    let around := s.serving.surroundings s.call.now
    let entry := s.serving.entry s.call.manifest s.call.event
    UpToStop around (Stage.sort stages) entry s.executed ∧
      s.outcome = outcome s.call.registry (through around s.executed entry) ∧
      s.next.state = (through around s.executed entry).state ∧
      ((Stage.sort stages).Perm stages ∧ Ordered (Stage.sort stages) ∧
        ∀ place, (Stage.sort stages).filter (isAt place) =
          host.filter (isAt place) ++ s.call.manifest.stages.filter (isAt place)) ∧
      ((s.call.manifest.stages : List (Stage σ)).Pairwise fun a b =>
        a.priority.value < b.priority.value) ∧
      ManifestStage.optOut (Manifest.optOutRules s.call.manifest.actions) ∈
        (s.call.manifest.stages : List (Stage σ)) := by
  intro stages around entry
  have hstages : s.serving.stages s.call.manifest = Stage.sort stages := by
    have hhost : s.serving.host = Stage.sort host := Processor.host_of_mem_steps hs
    rw [Processor.stages, hhost]
    exact merge_sort_eq host (Manifest.ordered_compile s.call.manifest.actions)
  have hexecuted : s.executed = ran around (Stage.sort stages) entry := by
    rw [Step.executed, executed_eq_ran, hstages]
  have hpass : s.passAfter .manifestRoute = through around s.executed entry := by
    have hroute := s.serving.passAfter_route s.call.manifest s.call.now s.call.event
    rw [hstages, runAll_eq_foldl_ran, ← hexecuted] at hroute
    exact hroute
  refine ⟨?met, ?outcome, ?state, ⟨?perm, ?ordered, ?stable⟩, ?increasing, ?optOut⟩
  case met =>
    rw [hexecuted]
    exact upToStop_ran around (Stage.sort stages) entry
  case outcome =>
    rw [← hpass]
    exact s.serving.process_fst s.call.manifest s.call.now s.call.event
  case state => rw [s.state_next, hpass]
  case perm => exact List.mergeSort_perm stages before
  case ordered => exact ordered_sort stages
  case stable =>
    intro place
    rw [filter_isAt_sort, List.filter_append]
  case increasing => exact s.call.manifest.increasing_stages
  case optOut => exact s.call.manifest.optOut_mem_stages

namespace Sample

/-- A stage that signs what it sees, and lets the event go on or not. -/
def signing (place : Priority) (name : String) (goesOn : Bool) : Stage (List String) where
  priority := place
  name := name
  run _ pass := (goesOn, { pass with state := pass.state ++ [name] })

def signers : List (Stage (List String)) :=
  [signing .personal "b" true, signing .manifestOptOut "a" true, signing .personal "c" true,
    signing .generalThrottling "d" false]

/-- Both kinds of stages at one place: those of the host come first. -/
theorem sort_signers :
    Stage.sort (signers ++ manifest.stages) =
      [ManifestStage.exclude (Guarded.select Effect.excludedChannels? manifest.actions),
        signing .manifestOptOut "a" true,
        ManifestStage.optOut (Manifest.optOutRules manifest.actions),
        signing .personal "b" true, signing .personal "c" true,
        signing .generalThrottling "d" false,
        ManifestStage.route (Guarded.select Effect.routeTargets? manifest.actions)] := by
  refine Ordered.ext (ordered_sort _) ?_ fun place => ?_
  · simp [Ordered, before, signing, ManifestStage.exclude, ManifestStage.optOut,
      ManifestStage.route, stateless, Priority.value]
  · rw [filter_isAt_sort, List.filter_append, Manifest.stages, Manifest.filter_isAt_compile]
    cases place <;> rfl

def signed : Step (List String) Nat :=
  ⟨.create (.create "s") registry signers [], .create "s", registry, manifest, 0, pageView⟩

end Sample

/-- Signed by all four stages of the host, the page view does not get to the rule that routes it. -/
theorem pageView_is_signed :
    let s := Sample.signed
    s ∈ (Processor.create (.create "s") Sample.registry Sample.signers []).steps [s.call] ∧
      UpToStop (s.serving.surroundings 0) (Stage.sort (Sample.signers ++ Sample.manifest.stages))
        (s.serving.entry Sample.manifest Sample.pageView) s.executed ∧
      s.executed.map Stage.name = ["manifest-exclude", "a", "manifest-opt-out", "b", "c", "d"] ∧
      s.next.state = ["a", "b", "c", "d"] := by
  intro s
  have hs : s ∈ (Processor.create (.create "s") Sample.registry Sample.signers []).steps
      [s.call] := List.mem_cons_self
  obtain ⟨hmet, -, hstate, -⟩ := Processor.executed_up_to_first_stop hs
  have hstages : s.serving.stages Sample.manifest =
      Stage.sort (Sample.signers ++ Sample.manifest.stages) :=
    merge_sort_eq Sample.signers (Manifest.ordered_compile Sample.manifest.actions)
  have hexecuted : s.executed = Stage.executed (s.serving.surroundings 0)
      (s.serving.stages Sample.manifest) (s.serving.entry Sample.manifest Sample.pageView) := rfl
  rw [hstages, Sample.sort_signers] at hexecuted
  refine ⟨hs, hmet, ?_, ?_⟩
  · rw [hexecuted]
    decide +kernel
  · rw [hstate, hexecuted]
    decide +kernel

end EventGate
