import EventGate.Channel.Line
import EventGate.Channel.Validator
import EventGate.Log.Writer

/-! # The log channel

A channel that writes every event it gets as a line of a log, until it is closed.
-/

namespace EventGate

structure LogChannel where
  id : String
  traits : ChannelTraits
  writer : LogWriter
  closed : Bool

namespace LogChannel

def create (id : String) (traits : ChannelTraits) (settings : LogSettings) (place : Place)
    (now : Nat) : Except Fault LogChannel :=
  match LogWriter.create settings place now with
  | .ok writer => .ok ⟨id, traits, writer, false⟩
  | .error cause => .error (.file cause)

def path (channel : LogChannel) : String :=
  let directory := channel.writer.settings.directory
  if directory.isEmpty then LogName.current
  else if directory.toList.getLast? = some '/' then directory ++ LogName.current
  else directory ++ "/" ++ LogName.current

/-- Writes an event; a closed channel forgets it. -/
def post (channel : LogChannel) (now : Nat) (event : Event) (arguments : List RouteArgument) :
    LogChannel :=
  if channel.closed then channel
  else { channel with writer := channel.writer.write now (lineOf event arguments) }

def postTimes (channel : LogChannel) (now : Nat) (event : Event) (arguments : List RouteArgument) :
    Nat → LogChannel
  | 0 => channel
  | n + 1 => postTimes (channel.post now event arguments) now event arguments n

def flush (channel : LogChannel) : Except Fault LogChannel :=
  if channel.closed then .error .disposed
  else .ok { channel with writer := channel.writer.flush }

/-- Writes what waits and takes no more events. -/
def close (channel : LogChannel) : LogChannel :=
  if channel.closed then channel
  else { channel with writer := channel.writer.flush, closed := true }

theorem close_close (channel : LogChannel) : channel.close.close = channel.close := by
  unfold close
  cases h : channel.closed <;> simp [h]

end LogChannel

end EventGate
