import EventGate.Channel.Inbox
import EventGate.Pipeline.Processor

/-! # A gate with inboxes

A processor whose channels keep what they get, and the manifest it works under. With it manifests
are tried out on events without a host.
-/

namespace EventGate

/-- A processor, its inboxes and its manifest. -/
structure Gate (σ : Type) where
  processor : Processor σ Nat
  inboxes : Inboxes
  manifest : Manifest

namespace Gate

variable {σ : Type}

def create (session : Session) (validators : List Validator) (stages : List (Stage σ)) (state : σ)
    (manifest : Manifest) : Gate σ :=
  ⟨.create session (.create validators) stages state, [], manifest⟩

def standard (session : Session) (manifest : Manifest) (now : Nat) : Gate HostState :=
  ⟨.standard session (.create []) now, [], manifest⟩

def registry (gate : Gate σ) : Registry Nat :=
  gate.processor.registry

def setRegistry (gate : Gate σ) (registry : Registry Nat) : Gate σ :=
  { gate with processor := { gate.processor with registry } }

def setSession (gate : Gate σ) (session : Session) : Gate σ :=
  { gate with processor := { gate.processor with session } }

def setState (gate : Gate σ) (state : σ) : Gate σ :=
  { gate with processor := { gate.processor with state } }

/-- Registers a channel with a new inbox; the inbox is there even if the channel is refused. -/
def register (gate : Gate σ) (registration : Registration) : Bool × Gate σ :=
  let (inboxes, number) := gate.inboxes.add registration.id
  let (accepted, registry) :=
    gate.registry.register gate.processor.session registration number
  (accepted, { gate.setRegistry registry with inboxes })

def unregister (gate : Gate σ) (id : String) : Bool × Gate σ :=
  let (removed, registry) := gate.registry.unregister id
  (removed, gate.setRegistry registry)

def dispatch (gate : Gate σ) (event : Event) (routes : List Routed) (excluded : NameSet) :
    List String × Gate σ :=
  let deliveries := gate.registry.dispatch routes excluded
  (deliveries.map Delivery.id, { gate with inboxes := gate.inboxes.deliver event deliveries })

def post (gate : Gate σ) (now : Nat) (event : Event) : Outcome Nat × Gate σ :=
  let (outcome, processor) := gate.processor.process gate.manifest now event
  (outcome, { gate with
    processor
    inboxes := gate.inboxes.deliver outcome.event outcome.deliveries })

def postTimes (gate : Gate σ) (now : Nat) (event : Event) : Nat → List (Outcome Nat) × Gate σ
  | 0 => ([], gate)
  | n + 1 =>
    let (outcome, gate) := gate.post now event
    let (rest, gate) := postTimes gate now event n
    (outcome :: rest, gate)

end Gate

end EventGate
