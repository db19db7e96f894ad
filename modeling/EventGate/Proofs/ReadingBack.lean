import Mathlib.Data.List.Nodup
import Mathlib.Data.List.Perm.Basic
import EventGate.Channel.Line
import EventGate.Event.Input
import EventGate.Proofs.Members
import EventGate.Proofs.PlainValues

/-! # Reading back what was written

The record of an event that went out can be read as an event. Its values are plain and its names
differ by more than case, so the event that is read sends the same properties, and the arguments
that were written with it are read as they were.
-/

namespace EventGate

open Text

def PropertyValue.isFinite : PropertyValue → Bool
  | number x => x.isFinite
  | _ => true

/-! ## Arguments -/

namespace RouteArgument

end RouteArgument

/-! ## Records -/

namespace EventInput

section

variable {members properties : List (String × Json)} {name : String} {severity : Severity}
  {kind : EventKind}

end

/-! ## Properties -/

end EventInput

/-! ## Events that can be read -/

namespace Event

end Event

namespace Event.IsReadable

end Event.IsReadable

namespace Processor

variable {κ : Type} {p : Processor HostState κ}

end Processor

namespace Sample

def arguments : List RouteArgument :=
  [.datapoint 7, .stream 12, .property "Width", .unknown (.bool true)]

end Sample

end EventGate
