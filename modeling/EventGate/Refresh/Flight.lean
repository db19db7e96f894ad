/-! # Flights

Callers that want the same thing at the same time share one flight: the first one starts it, the
others join it while it can be joined, and all of them get its outcome.
-/

namespace EventGate

/-- Flights and their callers. Flights are numbered in the order of their start; `open?` is the one
that callers join, `flying` those under way, `landed` those whose outcome is known and not handed
out yet, `aboard` the callers with their flights, and `received` what callers got. -/
structure Flights (ο : Type) where
  started : Nat
  open? : Option Nat
  flying : List Nat
  landed : List (Nat × ο)
  aboard : List (Nat × Nat)
  received : List (Nat × ο)

namespace Flights

variable {ο : Type}

def create : Flights ο := ⟨0, none, [], [], [], []⟩

/-- A caller joins the open flight, or starts one; gives the number of a flight that has to be
started. -/
def call (flights : Flights ο) (caller : Nat) : Option Nat × Flights ο :=
  match flights.open? with
  | some flight => (none, { flights with aboard := flights.aboard ++ [(caller, flight)] })
  | none =>
    let flight := flights.started
    (some flight, { flights with
      started := flight + 1
      open? := some flight
      flying := flights.flying ++ [flight]
      aboard := flights.aboard ++ [(caller, flight)] })

def land (flights : Flights ο) (flight : Nat) (outcome : ο) : Flights ο :=
  if flights.flying.contains flight then
    { flights with
      flying := flights.flying.erase flight
      landed := flights.landed ++ [(flight, outcome)] }
  else
    flights

/-- A landed flight closes whatever flight is open, and hands its outcome to those aboard. -/
def handOut (flights : Flights ο) (flight : Nat) : Flights ο :=
  match flights.landed.lookup flight with
  | none => flights
  | some outcome =>
    let landed := flights.landed.filter fun l => l.1 != flight
    match flights.open? with
    | none => { flights with landed }
    | some closing =>
      { flights with
        open? := none
        landed
        aboard := flights.aboard.filter fun a => a.2 != closing
        received := flights.received ++
          (flights.aboard.filter fun a => a.2 == closing).map fun a => (a.1, outcome) }

def outcome? (flights : Flights ο) (caller : Nat) : Option ο :=
  flights.received.lookup caller

end Flights

end EventGate
