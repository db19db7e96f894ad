import EventGate.Manifest.Basic
import EventGate.Refresh.Storage

/-! # The manifest manager

Holds the manifest that is in force, and the local copy of the last good one. A manifest is loaded
once at the start and then refreshed; a refresh that fails leaves the manifest in force.
-/

namespace EventGate

inductive ManagerState where
  | uninitialized
  | loading
  | active
  | refreshing
  | failed
deriving DecidableEq, Repr

inductive StatusKind where
  | loaded
  | refreshed
  | failed
deriving DecidableEq, Repr

/-- Where a manifest, or a failure, comes from. -/
inductive Origin where
  | cache
  | bundled
  | remote (location : String)
deriving DecidableEq, Repr

def Origin.text : Origin → String
  | cache => "cache"
  | bundled => "bundled"
  | remote location => location

/-- The notification that follows every attempt to load or refresh. -/
structure Status where
  kind : StatusKind
  origin : Origin
  version : Option String
  dropped : List DroppedRule
  fault : Option Fault

namespace Status

def success (kind : StatusKind) (origin : Origin) (manifest : Manifest) : Status :=
  ⟨kind, origin, manifest.version, manifest.dropped, none⟩

def failure (origin : Origin) (fault : Fault) : Status :=
  ⟨.failed, origin, none, [], some fault⟩

def isSuccess (status : Status) : Bool :=
  status.kind != .failed

end Status

/-- What a successful refresh reports: the rules kept and the rules left out. -/
structure RefreshReport where
  loaded : Nat
  dropped : Nat
deriving DecidableEq, Repr

inductive RefreshFault where
  | noSource
  | because (fault : Fault)

def RefreshFault.message : RefreshFault → String
  | noSource => "no manifest source configured"
  | because fault => fault.message

abbrev RefreshOutcome := Except RefreshFault RefreshReport

/-- The manager. `cache` is the local copy, if one is wanted, `raised` all notifications so far, and
`lastRefresh` the time of the last refresh that succeeded. -/
structure Manager where
  active : Manifest
  state : ManagerState
  cache : Option Storage
  raised : List Status
  lastRefresh : Option Nat

namespace Manager

def create (cache : Option Storage) : Manager :=
  ⟨.bundled, .uninitialized, cache, [], none⟩

def lastStatus? (manager : Manager) : Option Status :=
  manager.raised.getLast?

def raise (manager : Manager) (status : Status) : Manager :=
  { manager with raised := manager.raised ++ [status] }

/-- The manifest of the local copy: none if there is no copy, or what is wrong with it. -/
def cached (cache : Option Storage) : Except Fault (Option Manifest) :=
  match cache with
  | none => .ok none
  | some storage =>
    match storage.load? with
    | .ok none => .ok none
    | .ok (some text) => (Manifest.parse text).map some
    | .error cause => .error (.file cause)

def adopt (manager : Manager) (origin : Origin) (manifest : Manifest) : Status × Manager :=
  let status := Status.success .loaded origin manifest
  (status, raise { manager with active := manifest, state := .active } status)

def beginLoad (manager : Manager) : Manager :=
  { manager with state := .loading }

/-- Loading ends with the manifest of the local copy, or else with the bundled one. -/
def endLoad (manager : Manager) : Status × Manager :=
  match cached manager.cache with
  | .ok (some manifest) => manager.adopt .cache manifest
  | .ok none => manager.adopt .bundled .bundled
  | .error fault => (manager.raise (.failure .cache fault)).adopt .bundled .bundled

def load (manager : Manager) : Status × Manager :=
  manager.beginLoad.endLoad

def beginRefresh (manager : Manager) : Manager :=
  { manager with state := .refreshing }

def parsed (fetched : Except Fault String) : Except Fault (String × Manifest) := do
  let text ← fetched
  return (text, ← Manifest.parse text)

/-- A refresh ends with what was fetched: a good manifest is stored and put into force. -/
def endRefresh (manager : Manager) (location : String) (now : Nat)
    (fetched : Except Fault String) : RefreshOutcome × Manager :=
  match parsed fetched with
  | .error fault =>
    (.error (.because fault),
      raise { manager with state := .failed } (.failure (.remote location) fault))
  | .ok (text, manifest) =>
    (.ok ⟨manifest.actions.length, manifest.dropped.length⟩,
      raise { manager with
        active := manifest
        state := .active
        cache := manager.cache.map fun storage => storage.store text
        lastRefresh := some now } (.success .refreshed (.remote location) manifest))

def refresh (manager : Manager) (location : String) (now : Nat)
    (fetched : Except Fault String) : RefreshOutcome × Manager :=
  manager.beginRefresh.endRefresh location now fetched

/-- Loading always ends with a manifest in force. -/
theorem isSuccess_endLoad (manager : Manager) : manager.endLoad.1.isSuccess = true := by
  unfold endLoad
  split <;> rfl

theorem active_beginRefresh (manager : Manager) :
    manager.beginRefresh.active = manager.active := rfl

end Manager

end EventGate
