import EventGate.Fault

/-! # Accounts of faults

The kind of a fault and what there is to say about it: its text, or the category of its cause where
the cause comes from a JSON text or a file.
-/

namespace EventGate

def JsonDefect.category : JsonDefect → String
  | truncated => "eof"
  | malformed => "syntax"
  | mismatched => "data"

def FileFault.category : FileFault → String
  | notFound => "NotFound"
  | alreadyExists => "AlreadyExists"
  | isDirectory => "IsADirectory"
  | notDirectory => "NotADirectory"
  | invalidData => "InvalidData"

def Fault.kind : Fault → String
  | unreadableManifest _ => "ManifestParse"
  | invalidRule _ => "ManifestValidation"
  | unconvertible _ => "PiiConversion"
  | unserializable _ => "Serialization"
  | fetch _ => "Fetch"
  | file _ => "Io"
  | invalidEventName _ => "InvalidEventName"
  | invalidPropertyName _ => "InvalidPropertyName"
  | disposed => "Disposed"
  | timedOut => "Timeout"

/-- The category of a fault whose cause comes from outside. -/
def Fault.category? : Fault → Option String
  | unreadableManifest defect => some defect.category
  | unserializable defect => some defect.category
  | file cause => some cause.category
  | _ => none

def Fault.account (fault : Fault) : Json :=
  let detail : String × Json :=
    match fault.category? with
    | some category => ("category", .string category)
    | none => ("message", .string fault.message)
  .ofMembers [("error", .string fault.kind), detail]

end EventGate
