import EventGate.Session
import EventGate.Text.Fold

/-! # Admission of channels

The traits of channels, and the validators that every channel has to pass when it is registered.
A validator may change the traits that the channel is registered with.
-/

namespace EventGate

open Text

/-- The traits of a channel: whether it gets every event, is for internal users only, and must be
kept from raw personal data. -/
structure ChannelTraits where
  isDefault : Bool
  internalOnly : Bool
  restricted : Bool
deriving DecidableEq, Repr

def ChannelTraits.plain : ChannelTraits := ⟨false, false, false⟩

def ChannelTraits.default : ChannelTraits := ⟨true, false, false⟩

structure Registration where
  id : String
  traits : ChannelTraits
deriving DecidableEq, Repr

/-- Switches that force channels on or off, by channel id. -/
abbrev Overrides := List (String × Bool)

namespace Overrides

/-- The switch of a channel. Of ids that are the same up to case the last one counts. -/
def switch? (overrides : Overrides) (id : String) : Option Bool :=
  (overrides.reverse.map fun o => (fold o.1, o.2)).lookup (fold id)

end Overrides

inductive Validator where
  | globalSwitch (disabled : Bool)
  | internalChannel
  | override (overrides : Overrides)

namespace Validator

def name : Validator → String
  | globalSwitch _ => "global-switch"
  | internalChannel => "internal-channel"
  | override _ => "override"

/-- Whether a channel passes, and what is left of its registration. -/
def validate (session : Session) (registration : Registration) :
    Validator → Bool × Registration
  | globalSwitch disabled => (!disabled, registration)
  | internalChannel => (!registration.traits.internalOnly || session.internalUser, registration)
  | override overrides =>
    match overrides.switch? registration.id with
    | some true =>
      (true, { registration with traits := { registration.traits with isDefault := true } })
    | some false => (false, registration)
    | none => (true, registration)

def standard (disabled : Bool) (overrides : Overrides) : List Validator :=
  [globalSwitch disabled, internalChannel, override overrides]

/-- The first validator that a channel does not pass, if there is one, and the registration as the
validators so far left it. -/
def rejectedBy (session : Session) :
    List Validator → Registration → Option Validator × Registration
  | [], registration => (none, registration)
  | validator :: rest, registration =>
    match validator.validate session registration with
    | (true, registration) => rejectedBy session rest registration
    | (false, registration) => (some validator, registration)

end Validator

end EventGate
