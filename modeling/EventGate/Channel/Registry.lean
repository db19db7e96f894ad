import EventGate.Channel.Validator
import EventGate.Property.NameSet
import EventGate.Rule.Route

/-! # The channel registry

The channels in use, in the order of their last registration, and the delivery of events to them.
Ids that are the same up to case are one channel.
-/

namespace EventGate

open Text

/-- A channel in use. What stands behind it is never looked at here. -/
structure Channel (κ : Type) where
  id : String
  traits : ChannelTraits
  sink : κ

structure Routed where
  channel : String
  argument : RouteArgument

structure Delivery (κ : Type) where
  id : String
  sink : κ
  arguments : List RouteArgument

structure Registry (κ : Type) where
  validators : List Validator
  channels : List (Channel κ)

namespace Registry

variable {κ : Type}

def create (validators : List Validator) : Registry κ :=
  ⟨validators, []⟩

def without (channels : List (Channel κ)) (id : String) : List (Channel κ) :=
  channels.filter fun c => !sameName c.id id

/-- Registers a channel if it passes; it takes the place of the one with its id. -/
def register (registry : Registry κ) (session : Session) (registration : Registration)
    (sink : κ) : Bool × Registry κ :=
  match Validator.rejectedBy session registry.validators registration with
  | (some _, _) => (false, registry)
  | (none, admitted) =>
    let channel : Channel κ := ⟨admitted.id, admitted.traits, sink⟩
    (true, { registry with channels := without registry.channels admitted.id ++ [channel] })

/-- Takes a channel out of use; tells whether there was one. -/
def unregister (registry : Registry κ) (id : String) : Bool × Registry κ :=
  let rest := without registry.channels id
  (rest.length != registry.channels.length, { registry with channels := rest })

def ids (registry : Registry κ) : List String :=
  registry.channels.map Channel.id

def traits? (registry : Registry κ) (id : String) : Option ChannelTraits :=
  (registry.channels.find? fun c => sameName c.id id).map Channel.traits

def restrictedIds (registry : Registry κ) : List String :=
  (registry.channels.filter fun c => c.traits.restricted).map Channel.id

def argumentsFor (routes : List Routed) (id : String) : List RouteArgument :=
  (routes.filter fun r => sameName r.channel id).map Routed.argument

/-- The delivery to a channel, if it gets the event: it is not excluded, and it gets every event or
has an argument. -/
def delivery? (routes : List Routed) (excluded : NameSet) (channel : Channel κ) :
    Option (Delivery κ) :=
  if excluded.contains channel.id then none
  else
    let arguments := argumentsFor routes channel.id
    if channel.traits.isDefault || !arguments.isEmpty then
      some ⟨channel.id, channel.sink, arguments⟩
    else
      none

/-- The deliveries of an event, in the order of registration. -/
def dispatch (registry : Registry κ) (routes : List Routed) (excluded : NameSet) :
    List (Delivery κ) :=
  registry.channels.filterMap (delivery? routes excluded)

end Registry

end EventGate
