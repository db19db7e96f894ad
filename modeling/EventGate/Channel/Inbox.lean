import EventGate.Channel.Registry
import EventGate.Event.Basic

/-! # Inboxes

Channels that keep what they get. Each inbox has a number, by which deliveries reach it.
-/

namespace EventGate

structure Posted where
  event : Event
  arguments : List RouteArgument

/-- Inboxes by number, each under the id of its channel, with its events in their order. -/
abbrev Inboxes := List (String × List Posted)

namespace Inboxes

/-- A new inbox, and its number. -/
def add (boxes : Inboxes) (id : String) : Inboxes × Nat :=
  (boxes ++ [(id, [])], boxes.length)

def put (boxes : Inboxes) (number : Nat) (posted : Posted) : Inboxes :=
  boxes.modify number fun box => (box.1, box.2 ++ [posted])

def deliver (boxes : Inboxes) (event : Event) (deliveries : List (Delivery Nat)) : Inboxes :=
  deliveries.foldl (fun boxes d => boxes.put d.sink ⟨event, d.arguments⟩) boxes

def newest? (boxes : Inboxes) (id : String) : Option (List Posted) :=
  boxes.reverse.lookup id

def clear (boxes : Inboxes) (id : String) : Inboxes :=
  match boxes.reverse.findIdx? fun box => box.1 == id with
  | some back => boxes.modify (boxes.length - 1 - back) fun box => (box.1, [])
  | none => boxes

@[simp] theorem deliver_nil (boxes : Inboxes) (event : Event) :
    boxes.deliver event [] = boxes := rfl

end Inboxes

end EventGate
