import EventGate.Decimal.Layout
import EventGate.Json.Defect
import EventGate.Json.Writer
import EventGate.Text.Quoted

/-! # Faults

Every reason for which an operation fails, as a cause, and the wording of each.
-/

namespace EventGate

inductive PersonalFault where
  | notFinite (x : Binary64)
  | structured
deriving DecidableEq

def PersonalFault.message : PersonalFault → String
  | notFinite x => "non-finite number " ++ x.text .plain
  | structured => "complex values have no invariant string form"

/-- Why a rule, or a part of one, is not valid. `key` is the key of the document that names the
part. -/
inductive RuleFault where
  | boundNotFinite (key : String)
  | existsFalse
  | emptyPattern (key : String)
  | unknownValue (raw : Json)
  | emptyClause (key : String)
  | emptyPropertyName
  | unknownMatch (raw : Json)
  | zeroArgument (key : String)
  | emptyArgument (key : String)
  | unknownArgument (raw : Json)
  | emptyTarget
  | emptyChannel (key : String)
  | noNames (key : String)
  | emptyName (key : String)
  | notTrue (key : String)
  | noTargets (key : String)
  | unknownAction (raw : Json)

def RuleFault.message : RuleFault → String
  | boundNotFinite key => "non-finite " ++ key ++ " bound"
  | existsFalse => "exists must be true"
  | emptyPattern key => "empty " ++ key
  | unknownValue raw => "unrecognized match value " ++ raw.write
  | emptyClause key => "empty " ++ key ++ "-clause"
  | emptyPropertyName => "empty property name"
  | unknownMatch raw => "unrecognized match expression " ++ raw.write
  | zeroArgument key => "zero " ++ key
  | emptyArgument key => "empty " ++ key
  | unknownArgument raw => "unrecognized route args " ++ raw.write
  | emptyTarget => "empty route channelId"
  | emptyChannel key => "empty channel id in " ++ key
  | noNames key => "empty " ++ key
  | emptyName key => "empty name in " ++ key
  | notTrue key => key ++ " must be true"
  | noTargets key => "empty " ++ key
  | unknownAction raw => "unrecognized action " ++ raw.write

inductive FileFault where
  | notFound
  | alreadyExists
  | isDirectory
  | notDirectory
  | invalidData
deriving DecidableEq, Repr

def FileFault.message : FileFault → String
  | notFound => "No such file or directory (os error 2)"
  | alreadyExists => "File exists (os error 17)"
  | isDirectory => "Is a directory (os error 21)"
  | notDirectory => "Not a directory (os error 20)"
  | invalidData => "stream did not contain valid UTF-8"

inductive Fault where
  | unreadableManifest (defect : JsonDefect)
  | invalidRule (cause : RuleFault)
  | unconvertible (cause : PersonalFault)
  | unserializable (defect : JsonDefect)
  | fetch (what : String)
  | file (cause : FileFault)
  | invalidEventName (name : String)
  | invalidPropertyName (name : String)
  | disposed
  | timedOut

/-- The text of a fault. Where the cause comes from a JSON text or a file, the kind of fault is all
that is said. -/
def Fault.message : Fault → String
  | unreadableManifest _ => "manifest parse error"
  | invalidRule cause => "manifest validation error: " ++ cause.message
  | unconvertible cause => "pii conversion error: " ++ cause.message
  | unserializable _ => "serialization error"
  | fetch what => "manifest fetch error: " ++ what
  | file _ => "io error"
  | invalidEventName name => "invalid event name: " ++ Text.quoted name
  | invalidPropertyName name => "invalid property name: " ++ Text.quoted name
  | disposed => "telemetry service has been disposed"
  | timedOut => "operation timed out"

end EventGate
