import EventGate.Account.Manifest
import EventGate.Channel.Inbox
import EventGate.Pipeline.Processor

/-! # Accounts of the pipeline

Sessions and channels, the record of an event, and what became of the event.
-/

namespace EventGate

def ChannelTraits.account (traits : ChannelTraits) : Json :=
  .array [.bool traits.isDefault, .bool traits.internalOnly, .bool traits.restricted]

def Session.account (session : Session) : Json :=
  .array [.bool session.optedOut, .bool session.collectsPrivate, .bool session.internalUser,
    .ofOption .string session.userId]

def Channel.account {κ : Type} (channel : Channel κ) : Json :=
  .array [.string channel.id, channel.traits.account]

def Registry.account {κ : Type} (registry : Registry κ) : Json :=
  .array (registry.channels.map Channel.account)

def Routed.account (routed : Routed) : Json :=
  .array [.string routed.channel, routed.argument.account]

def Context.account (context : Context) : List (String × Json) :=
  [("dropped", .bool context.dropped),
   ("throttled", .bool context.throttled),
   ("throttling", .string context.throttling.label),
   ("opt_out", .string context.optOut.label),
   ("routes", .array (context.routes.map Routed.account)),
   ("excluded", .ofTexts context.excludedChannels.sorted),
   ("manifest", .ofOption .string context.manifest.version)]

def Outcome.account {κ : Type} (outcome : Outcome κ) : Json :=
  .ofMembers [
    ("dropped", .bool outcome.dropped),
    ("throttled", .bool outcome.throttled),
    ("throttling", .string outcome.throttling.label),
    ("routes", .array (outcome.routes.map Routed.account)),
    ("delivered", .ofTexts outcome.delivered),
    ("excluded_channels", .ofTexts outcome.excludedChannels),
    ("event", outcome.event.account)]

def Stats.account (stats : Stats) : Json :=
  .ofMembers [
    ("posted", .ofNat stats.posted),
    ("dropped", .ofNat stats.dropped),
    ("throttled", .ofNat stats.throttled),
    ("routed", .ofNat stats.routed)]

def Posted.account (posted : Posted) : Json :=
  .array [.string posted.event.toJson.write, .array (posted.arguments.map RouteArgument.account)]

def inboxAccount (posted : List Posted) : Json :=
  .ofMembers [
    ("len", .ofNat posted.length),
    ("empty", .bool posted.isEmpty),
    ("names", .ofTexts (posted.map fun p => p.event.name)),
    ("events", .array (posted.map Posted.account))]

end EventGate
