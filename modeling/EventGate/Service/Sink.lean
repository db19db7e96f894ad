import EventGate.Channel.LogChannel
import EventGate.Channel.Registry

/-! # Channels of a service

A service writes to its own log channel and to the channels that its host registers. Of a host's
channel it is known how long a flush takes and how it ends.
-/

namespace EventGate

/-- A channel of the host. `flushTime` is in milliseconds. -/
structure HostChannel where
  id : String
  flushTime : Nat
  flushFault : Option Fault

/-- What stands behind a registered channel. -/
inductive Sink where
  | log
  | host (channel : HostChannel)

def Sink.isLog : Sink → Bool
  | log => true
  | host _ => false

inductive ChannelNote where
  | got (id event : String)
  | flushing (id : String)
  | flushed (id : String)
deriving DecidableEq, Repr

end EventGate
