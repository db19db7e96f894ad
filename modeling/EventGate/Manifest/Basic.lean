import EventGate.Json.Reader
import EventGate.Rule.Action

/-! # Manifests

A manifest is a list of rules with the settings of the rate limit. Rules with a fault are left out
when it is made, and the places and faults of those are kept.
-/

namespace EventGate

/-- The rate limit: how many events may pass in a window of time. -/
structure Throttling where
  threshold : Nat
  windowSeconds : Nat
deriving DecidableEq, Repr

def Throttling.standard : Throttling := ⟨1000, 10⟩

/-- A rule that was left out: its place in the document, its key, and what is wrong with it. -/
structure DroppedRule where
  index : Nat
  key : String
  fault : RuleFault

namespace DroppedRule

def reason (rule : DroppedRule) : String :=
  (Fault.invalidRule rule.fault).message

def text (rule : DroppedRule) : String :=
  "#" ++ rule.index.repr ++ " " ++ rule.key ++ ": " ++ rule.reason

end DroppedRule

/-- Usable rules in document order, and what came with them. -/
structure Manifest where
  version : Option String
  etag : Option String
  throttling : Throttling
  actions : List Action
  dropped : List DroppedRule

/-- A manifest as it is written, before its rules are checked. -/
structure Document where
  version : Option Json
  etag : Option String
  threshold : Option Nat
  windowSeconds : Option Nat
  actions : List Action

namespace Document

def shape : Shape :=
  .record [
    ("version", .optional .any, false),
    ("etag", .optional .text, false),
    ("throttlingThreshold", .optional .natural, false),
    ("throttlingWindowSecs", .optional .natural, false),
    ("actions", .list .any, false)]

def ofNormal (value : Json) : Document where
  version := value.get? "version"
  etag := (value.get? "etag").bind Json.string?
  threshold := ((value.get? "throttlingThreshold").bind Json.natural?).map UInt64.toNat
  windowSeconds := ((value.get? "throttlingWindowSecs").bind Json.natural?).map UInt64.toNat
  actions := (((value.get? "actions").bind Json.items?).getD []).map Action.ofJson

def ofActions (actions : List Action) : Document :=
  ⟨none, none, none, none, actions⟩

def parse (text : String) : Except Fault Document :=
  match Json.readAs shape text with
  | .ok value => .ok (ofNormal value)
  | .error defect => .error (.unreadableManifest defect)

/-- The version as text, whatever kind of value it is. -/
def versionText (document : Document) : Option String :=
  match document.version with
  | none => none
  | some .null => none
  | some (.string s) => some s
  | some value => some value.write

/-- The rate limit; a zero counts as not given. -/
def throttling (document : Document) : Throttling where
  threshold := (document.threshold.filter (0 < ·)).getD Throttling.standard.threshold
  windowSeconds := (document.windowSeconds.filter (0 < ·)).getD Throttling.standard.windowSeconds

def kept (actions : List Action) : List Action :=
  actions.filter fun action => action.check.isOk

def droppedFrom (index : Nat) : List Action → List DroppedRule
  | [] => []
  | action :: rest =>
    match action.check with
    | .ok () => droppedFrom (index + 1) rest
    | .error fault => ⟨index, action.effect.key, fault⟩ :: droppedFrom (index + 1) rest

/-- Checks every rule once. This never fails: a document without one usable rule gives a manifest
without rules. -/
def validate (document : Document) : Manifest where
  version := document.versionText
  etag := document.etag
  throttling := document.throttling
  actions := kept document.actions
  dropped := droppedFrom 0 document.actions

theorem length_kept_add_dropped (actions : List Action) (index : Nat) :
    (kept actions).length + (droppedFrom index actions).length = actions.length := by
  induction actions generalizing index with
  | nil => rfl
  | cons action rest ih =>
    have hrest := ih (index + 1)
    have hkept : kept (action :: rest) =
        if action.check.isOk then action :: kept rest else kept rest := List.filter_cons
    rw [hkept, droppedFrom]
    cases action.check with
    | ok =>
      change (action :: kept rest).length + (droppedFrom (index + 1) rest).length = _
      rw [List.length_cons, List.length_cons, ← hrest]
      omega
    | error fault =>
      change (kept rest).length + (_ :: droppedFrom (index + 1) rest).length = _
      rw [List.length_cons, List.length_cons, ← hrest]
      omega

end Document

namespace Manifest

def parse (text : String) : Except Fault Manifest :=
  (Document.parse text).map Document.validate

def ofActions (actions : List Action) : Manifest :=
  (Document.ofActions actions).validate

/-- The manifest that is in force when no other one is at hand. -/
def bundled : Manifest where
  version := some "bundled"
  etag := none
  throttling := .standard
  actions := []
  dropped := []

def optionText (text : Option String) : String :=
  match text with
  | some s => "Some(" ++ Text.quoted s ++ ")"
  | none => "None"

def summary (m : Manifest) : String :=
  "Manifest \x7b version: " ++ optionText m.version ++ ", etag: " ++ optionText m.etag ++
    ", throttling: ThrottlingSettings \x7b threshold: " ++ m.throttling.threshold.repr ++
    ", window: " ++ m.throttling.windowSeconds.repr ++ "s \x7d, actions: " ++
    m.actions.length.repr ++ ", invalid_rules: " ++ m.dropped.length.repr ++ " \x7d"

end Manifest

end EventGate
