import EventGate.Text.Split

/-! # Sessions

The policy flags of a session, and what is known about its host. Host data is asked for on first
use and then kept.
-/

namespace EventGate

/-- The session that events belong to. The flags may change between events. -/
structure Session where
  id : String
  optedOut : Bool
  collectsPrivate : Bool
  internalUser : Bool
  userId : Option String
deriving DecidableEq, Repr

def Session.create (id : String) : Session :=
  ⟨id, false, false, false, none⟩

def hostVersion : String := "0.1.0"

/-- The culture that the locale variables give: the part before the first point, with hyphens for
underscores. An empty one is the invariant culture. -/
def cultureOf (all lang : Option String) : String :=
  match all.or lang with
  | none => "invariant"
  | some locale =>
    let tag := (locale.toList.takeWhile (· != '.')).map fun c => if c = '_' then '-' else c
    if tag.isEmpty then "invariant" else String.ofList tag

inductive HostField where
  | exeName
  | version
  | culture
deriving DecidableEq, Repr

/-- The answers of a host that were asked for, and how often it was asked. -/
structure HostInfo where
  answer : HostField → String
  known : List (HostField × String)
  reads : Nat

namespace HostInfo

def create (answer : HostField → String) : HostInfo :=
  ⟨answer, [], 0⟩

/-- The value of a field; the host is asked only the first time. -/
def get (info : HostInfo) (field : HostField) : String × HostInfo :=
  match info.known.lookup field with
  | some value => (value, info)
  | none =>
    let value := info.answer field
    (value, { info with known := (field, value) :: info.known, reads := info.reads + 1 })

theorem get_get (info : HostInfo) (field : HostField) :
    (info.get field).2.get field = info.get field := by
  unfold get
  cases h : info.known.lookup field with
  | some value => simp [h]
  | none => simp

end HostInfo

end EventGate
