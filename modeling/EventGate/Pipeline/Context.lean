import EventGate.Channel.Registry
import EventGate.Manifest.Basic

/-! # The record of an event in the pipeline

What the stages decide about one event. A record is used again for later events and is then bound
to their manifest and cleared.
-/

namespace EventGate

/-- Whether the rules want an event to be counted against the rate limit. -/
inductive ThrottlingDecision where
  | unset
  | throttle
  | doNotThrottle
deriving DecidableEq, Repr

def ThrottlingDecision.label : ThrottlingDecision → String
  | unset => "Unset"
  | throttle => "Throttle"
  | doNotThrottle => "DoNotThrottle"

def ThrottlingDecision.ofLabel (label : String) : ThrottlingDecision :=
  if label = throttle.label then throttle
  else if label = doNotThrottle.label then doNotThrottle
  else unset

/-- Whether an event of an opted-out session may pass. -/
inductive OptOutVerdict where
  | undecided
  | allowed
  | denied
deriving DecidableEq, Repr

def OptOutVerdict.label : OptOutVerdict → String
  | undecided => "Undecided"
  | allowed => "Allowed"
  | denied => "Denied"

def OptOutVerdict.ofLabel (label : String) : OptOutVerdict :=
  if label = allowed.label then allowed
  else if label = denied.label then denied
  else undecided

structure Context where
  manifest : Manifest
  dropped : Bool
  throttled : Bool
  throttling : ThrottlingDecision
  optOut : OptOutVerdict
  routes : List Routed
  excludedChannels : NameSet

namespace Context

def create (manifest : Manifest) : Context :=
  ⟨manifest, false, false, .unset, .undecided, [], .empty⟩

/-- Binds a record to a manifest and clears what an earlier event left. -/
def reset (context : Context) (manifest : Manifest) : Context :=
  { context with
    manifest
    dropped := false
    throttled := false
    throttling := .unset
    optOut := .undecided
    routes := []
    excludedChannels := .empty }

@[simp] theorem reset_eq_create (context : Context) (manifest : Manifest) :
    context.reset manifest = create manifest := rfl

def drop (context : Context) : Context :=
  { context with dropped := true }

def throttle (context : Context) : Context :=
  { context with dropped := true, throttled := true }

def addRoute (context : Context) (channel : String) (argument : RouteArgument) : Context :=
  { context with routes := context.routes ++ [⟨channel, argument⟩] }

def excludeChannel (context : Context) (id : String) : Context :=
  { context with excludedChannels := context.excludedChannels.insert id }

def excludeChannels (context : Context) (ids : List String) : Context :=
  ids.foldl excludeChannel context

end Context

end EventGate
