import EventGate.Event.Basic
import EventGate.Rule.Route

/-! # Event lines

The one line of JSON that stands for an event in a log and on a console.
-/

namespace EventGate

/-- What is written for an event: what is sent of it, and the arguments of its channel, if there
are any. -/
def recordOf (event : Event) (arguments : List RouteArgument) : Json :=
  match event.toJson with
  | .object members =>
    if arguments.isEmpty then .object members
    else .object (Json.insertMember "routes" (.array (arguments.map RouteArgument.toJson)) members)
  | other => other

def lineOf (event : Event) (arguments : List RouteArgument) : String :=
  (recordOf event arguments).write

end EventGate
