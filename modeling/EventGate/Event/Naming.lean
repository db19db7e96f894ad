import EventGate.Fault
import EventGate.Text.Fold
import EventGate.Text.Split

/-! # Names of events and properties

Which names are allowed, which property names belong to the framework, and the name under which
the raw text of a hashed value travels.
-/

namespace EventGate.Naming

open Text

/-- The characters of a name: ASCII letters and digits, the underscore, the point and the hyphen. -/
def isNameChar (c : Char) : Bool :=
  c.isAlphanum || c == '_' || c == '.' || c == '-'

/-- An event name has two or more parts, none of them empty, with a slash between them. -/
def isEventName (name : String) : Bool :=
  let parts := splitChars '/' name.toList
  decide (2 ≤ parts.length) && parts.all fun part => !part.isEmpty && part.all isNameChar

/-- A property name is not empty and may have slashes anywhere. -/
def isPropertyName (name : String) : Bool :=
  !name.isEmpty && name.toList.all fun c => isNameChar c || c == '/'

def checkEventName (name : String) : Except Fault Unit :=
  if isEventName name then .ok () else .error (.invalidEventName name)

def checkPropertyName (name : String) : Except Fault Unit :=
  if isPropertyName name then .ok () else .error (.invalidPropertyName name)

/-- The beginnings of the names that the framework owns. -/
def reservedPrefixes : List String :=
  ["Reserved.", "Context.", "DataModel.", "Correlation."]

/-- Whether a property belongs to the framework; such a property is never filtered. -/
def isReserved (name : String) : Bool :=
  let folded := foldChars name.toList
  reservedPrefixes.any fun start => (foldChars start.toList).isPrefixOf folded

/-- What is added to the name of a hashed property to name its raw text. -/
def rawSuffix : String := ".NotHashed"

def rawName (name : String) : String :=
  name ++ rawSuffix

/-- Whether a name ends as the name of a raw text does, up to the case of ASCII letters. -/
def isRaw (name : String) : Bool :=
  let chars := name.toList
  sameAscii (chars.drop (chars.length - rawSuffix.length)) rawSuffix.toList

end EventGate.Naming
