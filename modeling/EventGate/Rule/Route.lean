import EventGate.Rule.Comparison

/-! # Routes

Where a rule sends an event: a channel, and an argument that the channel gets with it.
-/

namespace EventGate

/-- What a channel is told about a routed event. -/
inductive RouteArgument where
  | datapoint (id : UInt64)
  | stream (id : UInt64)
  | property (name : String)
  | unknown (raw : Json)

namespace RouteArgument

def ofJson (raw : Json) : RouteArgument :=
  (raw.firstMember? [
    ("datapointId", fun v => v.natural?.map datapoint),
    ("streamId", fun v => v.natural?.map stream),
    ("propertyName", fun v => v.string?.map property)]).getD (unknown raw)

def toJson : RouteArgument → Json
  | datapoint id => .object [("datapointId", .ofNat id.toNat)]
  | stream id => .object [("streamId", .ofNat id.toNat)]
  | property name => .object [("propertyName", .string name)]
  | unknown raw => raw

def check : RouteArgument → Except RuleFault Unit
  | datapoint id => if id = 0 then .error (.zeroArgument "datapointId") else .ok ()
  | stream id => if id = 0 then .error (.zeroArgument "streamId") else .ok ()
  | property name => if name.isEmpty then .error (.emptyArgument "propertyName") else .ok ()
  | unknown raw => .error (.unknownArgument raw)

end RouteArgument

structure RouteTarget where
  channel : String
  argument : RouteArgument

namespace RouteTarget

def ofJson (raw : Json) : RouteTarget where
  channel := ((raw.get? "channelId").bind Json.string?).getD ""
  argument := ((raw.get? "args").map RouteArgument.ofJson).getD (.unknown .null)

def check (target : RouteTarget) : Except RuleFault Unit :=
  if target.channel.isEmpty then .error .emptyTarget else .ok ()

end RouteTarget

end EventGate
