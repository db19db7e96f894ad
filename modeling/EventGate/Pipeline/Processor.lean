import EventGate.Pipeline.HostStage
import EventGate.Pipeline.ManifestStage

/-! # The processor

Stamps an event, sends it through the stages of the host and of the manifest, and hands it to the
channels unless it was dropped. One processor serves all events of a session, and counts them.
-/

namespace EventGate

def sessionProperty : String := "Reserved.SessionId"

def sequenceProperty : String := "Reserved.Sequence"

structure Outcome (κ : Type) where
  event : Event
  dropped : Bool
  throttled : Bool
  throttling : ThrottlingDecision
  routes : List Routed
  deliveries : List (Delivery κ)
  excludedChannels : List String

def Outcome.delivered {κ : Type} (outcome : Outcome κ) : List String :=
  outcome.deliveries.map Delivery.id

/-- Counts of events: all, those dropped by rules, those over the rate limit, and those sent with
an argument. -/
structure Stats where
  posted : Nat
  dropped : Nat
  throttled : Nat
  routed : Nat
deriving DecidableEq, Repr

def Stats.zero : Stats := ⟨0, 0, 0, 0⟩

/-- The processor of a session. `pool` holds records to be used again. -/
structure Processor (σ κ : Type) where
  session : Session
  registry : Registry κ
  host : List (Stage σ)
  state : σ
  pool : List Context
  sequence : Nat
  stats : Stats

namespace Processor

variable {σ κ : Type}

def poolLimit : Nat := 16

/-- A processor with the given stages of the host, in any order. -/
def create (session : Session) (registry : Registry κ) (stages : List (Stage σ)) (state : σ) :
    Processor σ κ :=
  ⟨session, registry, Stage.sort stages, state, [], 0, .zero⟩

/-- A processor with the standard stages, whose rate limit counts from now on. -/
def standard (session : Session) (registry : Registry κ) (now : Nat) : Processor HostState κ :=
  create session registry HostStage.standard (.create SettingTable.standardCapacity now)

/-- A record for the next event, and those that are left. -/
def takeContext (pool : List Context) (manifest : Manifest) : Context × List Context :=
  match pool with
  | [] => (.create manifest, [])
  | context :: rest => (context.reset manifest, rest)

def giveContext (pool : List Context) (context : Context) : List Context :=
  if pool.length < poolLimit then context :: pool else pool

def stamp (session : Session) (sequence : Nat) (event : Event) : Event :=
  (event.put sessionProperty (.text session.id)).put sequenceProperty
    (.number (.ofNat sequence))

def run (p : Processor σ κ) (manifest : Manifest) (now : Nat) (context : Context)
    (event : Event) : Pass σ :=
  Stage.runAll ⟨p.session, p.registry.restrictedIds, now⟩ (Stage.merge p.host manifest.stages)
    ⟨event, context, p.state⟩

def outcome (registry : Registry κ) (pass : Pass σ) : Outcome κ :=
  let context := pass.context
  let excludedChannels := context.excludedChannels.sorted
  if context.dropped then
    ⟨pass.event, true, context.throttled, context.throttling, [], [], excludedChannels⟩
  else
    ⟨pass.event, false, false, context.throttling, context.routes,
      registry.dispatch context.routes context.excludedChannels, excludedChannels⟩

def count (stats : Stats) (outcome : Outcome κ) : Stats :=
  let stats := { stats with posted := stats.posted + 1 }
  if outcome.dropped then
    if outcome.throttled then { stats with throttled := stats.throttled + 1 }
    else { stats with dropped := stats.dropped + 1 }
  else if outcome.routes.isEmpty then stats
  else { stats with routed := stats.routed + 1 }

def process (p : Processor σ κ) (manifest : Manifest) (now : Nat) (event : Event) :
    Outcome κ × Processor σ κ :=
  let sequence := p.sequence + 1
  let (context, pool) := takeContext p.pool manifest
  let pass := p.run manifest now context (stamp p.session sequence event)
  let result := outcome p.registry pass
  (result, { p with
    state := pass.state
    pool := giveContext pool pass.context
    sequence
    stats := count p.stats result })

end Processor

end EventGate
