import EventGate.Json.Defect
import EventGate.Json.Numeral
import EventGate.Json.Shape

/-! # Reading JSON

Texts are read from the left and the first fault ends the reading. A value is read whole, skipped
where nothing asks for it, or read under a shape. The nesting is limited.
-/

namespace EventGate.Json

abbrev Read := StateT (List Char) (Except JsonDefect)

namespace Read

def isSpace (c : Char) : Bool :=
  c == ' ' || c == '\n' || c == '\t' || c == '\r'

def fail {α : Type} (defect : JsonDefect) : Read α :=
  throw defect

def peek? : Read (Option Char) := do
  return (← get).head?

def skip : Read Unit :=
  modify List.tail

/-- Passes over blanks and shows the next character. -/
def next? : Read (Option Char) := do
  modify (·.dropWhile isSpace)
  peek?

def word : List Char → Read Unit
  | [] => pure ()
  | c :: rest => do
    match ← get with
    | [] => fail .truncated
    | d :: after =>
      if d = c then
        set after
        word rest
      else
        fail .malformed

def digits : Read (List Char) := do
  let chars ← get
  set (chars.dropWhile Char.isDigit)
  return chars.takeWhile Char.isDigit

end Read

open Read

/-! ## Numbers -/

/-- What an unfinished number is: a number that is needed ends too early, and a number that is
skipped is no number. -/
def unfinished (needed : Bool) : JsonDefect :=
  if needed then .truncated else .malformed

def someDigits (needed : Bool) : Read (List Char) := do
  let digits ← Read.digits
  if digits.isEmpty then
    match ← peek? with
    | none => fail (unfinished needed)
    | some _ => fail .malformed
  else
    return digits

def wholeDigits (needed : Bool) : Read (List Char) := do
  let digits ← someDigits needed
  if digits.head? = some '0' && 1 < digits.length then fail .malformed
  else return digits

def fractionDigits (needed : Bool) : Read (Option (List Char)) := do
  match ← peek? with
  | some '.' =>
    skip
    return some (← someDigits needed)
  | _ => return none

def exponentPart (needed : Bool) : Read (Option Int) := do
  let mark ← peek?
  if mark = some 'e' || mark = some 'E' then
    skip
    let sign ← peek?
    if sign = some '+' || sign = some '-' then skip
    let digits ← someDigits needed
    let n : Int := digitsValue digits
    return some (if sign = some '-' then -n else n)
  else
    return none

def numeral (needed negative : Bool) : Read Numeral := do
  let whole ← wholeDigits needed
  let fraction ← fractionDigits needed
  let exponent ← exponentPart needed
  return ⟨negative, whole, fraction, exponent⟩

def readNumber : Read JsonNumber := do
  let negative := (← peek?) = some '-'
  if negative then skip
  match (← numeral true negative).value? with
  | some n => return n
  | none => fail .malformed

def skipNumber : Read Unit := do
  let negative := (← peek?) = some '-'
  if negative then skip
  discard (numeral false negative)

/-! ## Strings -/

def hexValue? (c : Char) : Option Nat :=
  if c.isDigit then some (c.toNat - '0'.toNat)
  else if 'a' ≤ c ∧ c ≤ 'f' then some (c.toNat - 'a'.toNat + 10)
  else if 'A' ≤ c ∧ c ≤ 'F' then some (c.toNat - 'A'.toNat + 10)
  else none

/-- Reads four digits to base sixteen. Fewer than four bytes before the end cut the text short,
whatever they are. -/
def fourHex : Read Nat := do
  match ← get with
  | a :: b :: c :: d :: rest =>
    match hexValue? a, hexValue? b, hexValue? c, hexValue? d with
    | some a, some b, some c, some d =>
      set rest
      return ((16 * a + b) * 16 + c) * 16 + d
    | _, _, _, _ => fail .malformed
  | chars => fail (if (String.ofList chars).utf8ByteSize < 4 then .truncated else .malformed)

def expect (c : Char) : Read Unit := do
  match ← peek? with
  | none => fail .truncated
  | some d => if d = c then skip else fail .malformed

/-- Reads the code point behind `\u`: one unit of 16 bits, or two of which the first is a leading
surrogate and the second a trailing one. -/
def escapedCode : Read Char := do
  let first ← fourHex
  if 0xDC00 ≤ first ∧ first ≤ 0xDFFF then fail .malformed
  else if 0xD800 ≤ first ∧ first ≤ 0xDBFF then
    expect '\\'
    expect 'u'
    let second ← fourHex
    if 0xDC00 ≤ second ∧ second ≤ 0xDFFF then
      return Char.ofNat (0x10000 + (first - 0xD800) * 0x400 + (second - 0xDC00))
    else
      fail .malformed
  else
    return Char.ofNat first

/-- Reads what follows a backslash. A string that is skipped may hold any code. -/
def escape (needed : Bool) : Read Char := do
  match ← get with
  | [] => fail .truncated
  | c :: rest =>
    set rest
    match c with
    | '"' => return '"'
    | '\\' => return '\\'
    | '/' => return '/'
    | 'b' => return '\x08'
    | 'f' => return '\x0c'
    | 'n' => return '\n'
    | 'r' => return '\r'
    | 't' => return '\t'
    | 'u' =>
      if needed then escapedCode
      else
        discard fourHex
        return 'u'
    | _ => fail .malformed

/-- Reads a string up to its closing quote; `read` holds the characters so far, last one first. Each
step takes a character at least, so that a list as long as the text is enough of them. -/
def stringRest (needed : Bool) (read : List Char) : List Char → Read (List Char)
  | [] => fail .truncated
  | _ :: steps => do
    match ← get with
    | [] => fail .truncated
    | c :: rest =>
      set rest
      if c = '"' then return read.reverse
      else if c = '\\' then
        let d ← escape needed
        stringRest needed (d :: read) steps
      else if c.toNat < 32 then fail .malformed
      else stringRest needed (c :: read) steps

def readString (needed : Bool) : Read String := do
  return String.ofList (← stringRest needed [] (← get))

/-! ## Lists and members -/

/-- Whether another item comes in a list; passes over the comma before it. -/
def moreItems (first : Bool) : Read Bool := do
  match ← next? with
  | none => fail .truncated
  | some ']' => return false
  | some ',' =>
    if first then return true
    skip
    match ← next? with
    | none => fail .truncated
    | some ']' => fail .malformed
    | some _ => return true
  | some _ => if first then return true else fail .malformed

/-- Whether another member comes in an object; passes over the comma before it and the quote of
its key. -/
def moreMembers (first : Bool) : Read Bool := do
  match ← next? with
  | none => fail .truncated
  | some '\x7d' => return false
  | some '"' =>
    if first then
      skip
      return true
    else
      fail .malformed
  | some ',' =>
    if first then fail .malformed
    skip
    match ← next? with
    | none => fail .truncated
    | some '"' =>
      skip
      return true
    | some _ => fail .malformed
  | some _ => fail .malformed

def colon : Read Unit := do
  match ← next? with
  | none => fail .truncated
  | some ':' => skip
  | some _ => fail .malformed

def close (mark : Char) : Read Unit := do
  match ← next? with
  | none => fail .truncated
  | some c => if c = mark then skip else fail .malformed

/-! ## Values -/

/-- The levels of nesting that are left inside one more level. -/
def inner (depth : Nat) : Read Nat :=
  if depth ≤ 1 then fail .malformed else return depth - 1

def startsNumber (c : Char) : Bool :=
  c == '-' || c.isDigit

mutual

def readValue (depth : Nat) : Nat → Read Json
  | 0 => fail .malformed
  | fuel + 1 => do
    match ← next? with
    | none => fail .truncated
    | some 'n' =>
      word "null".toList
      return null
    | some 't' =>
      word "true".toList
      return bool true
    | some 'f' =>
      word "false".toList
      return bool false
    | some '"' =>
      skip
      return string (← readString true)
    | some '[' =>
      let depth ← inner depth
      skip
      let items ← readItems depth true fuel
      close ']'
      return array items
    | some '\x7b' =>
      let depth ← inner depth
      skip
      let members ← readMembers depth true fuel
      close '\x7d'
      return ofMembers members
    | some c =>
      if startsNumber c then return number (← readNumber)
      else fail .malformed

def readItems (depth : Nat) (first : Bool) : Nat → Read (List Json)
  | 0 => fail .malformed
  | fuel + 1 => do
    if ← moreItems first then
      let item ← readValue depth fuel
      let rest ← readItems depth false fuel
      return item :: rest
    else
      return []

def readMembers (depth : Nat) (first : Bool) : Nat → Read (List (String × Json))
  | 0 => fail .malformed
  | fuel + 1 => do
    if ← moreMembers first then
      let key ← readString true
      colon
      let value ← readValue depth fuel
      let rest ← readMembers depth false fuel
      return (key, value) :: rest
    else
      return []

end

mutual

/-- Passes over a value, however deep it is. -/
def skipValue : Nat → Read Unit
  | 0 => fail .malformed
  | fuel + 1 => do
    match ← next? with
    | none => fail .truncated
    | some 'n' => word "null".toList
    | some 't' => word "true".toList
    | some 'f' => word "false".toList
    | some '"' =>
      skip
      discard (readString false)
    | some '[' =>
      skip
      skipItems true fuel
      close ']'
    | some '\x7b' =>
      skip
      skipMembers true fuel
      close '\x7d'
    | some c => if startsNumber c then skipNumber else fail .malformed

def skipItems (first : Bool) : Nat → Read Unit
  | 0 => fail .malformed
  | fuel + 1 => do
    if ← moreItems first then
      skipValue fuel
      skipItems false fuel

def skipMembers (first : Bool) : Nat → Read Unit
  | 0 => fail .malformed
  | fuel + 1 => do
    if ← moreMembers first then
      discard (readString false)
      colon
      skipValue fuel
      skipMembers false fuel

end

/-! ## Values of a shape -/

/-- Refuses a value that is not of the wanted kind. A literal, a number or a string is read first,
and a fault in it wins. -/
def refuse {α : Type} : Read α := do
  match ← next? with
  | none => fail .truncated
  | some 'n' => word "null".toList
  | some 't' => word "true".toList
  | some 'f' => word "false".toList
  | some '"' =>
    skip
    discard (readString true)
  | some '[' => pure ()
  | some '\x7b' => pure ()
  | some c => if startsNumber c then discard readNumber else fail .malformed
  fail .mismatched

def readText : Read String := do
  match ← next? with
  | some '"' =>
    skip
    readString true
  | _ => refuse

/-- Reads the key of the only member of an object. -/
def readKey : Read String := do
  match ← next? with
  | none => fail .truncated
  | some '"' =>
    skip
    readString true
  | some _ => fail .malformed

def readNull : Read Unit := do
  match ← next? with
  | some 'n' => word "null".toList
  | _ => refuse

def readNumeric : Read JsonNumber := do
  match ← next? with
  | some c => if startsNumber c then readNumber else refuse
  | none => fail .truncated

/-- Reads one word out of a list, alone or as the key of an object whose only member is null. -/
def readChoice (depth : Nat) (choices : List String) : Read Json := do
  match ← next? with
  | none => fail .truncated
  | some '"' =>
    skip
    let s ← readString true
    if s ∈ choices then return string s else fail .mismatched
  | some '\x7b' =>
    discard (inner depth)
    skip
    let s ← readKey
    if s ∈ choices then
      colon
      readNull
      close '\x7d'
      return string s
    else
      fail .mismatched
  | some _ => fail .malformed

def missing (fields : List (String × Shape × Bool)) (members : List (String × Json)) : Bool :=
  fields.any fun field => field.2.2 && (members.lookup field.1).isNone

mutual

/-- Reads a value of a shape, in its normal form. -/
def readShape (depth : Nat) : Nat → Shape → Read Json
  | 0, _ => fail .malformed
  | fuel + 1, shape =>
    match shape with
    | .any => readValue depth fuel
    | .text => return string (← readText)
    | .natural => do
      match (← readNumeric).natural? with
      | some n => return number (.whole n.toNat)
      | none => fail .mismatched
    | .real => return number (← readNumeric)
    | .word choices => readChoice depth choices
    | .optional shape => do
      match ← next? with
      | some 'n' =>
        word "null".toList
        return null
      | _ => readShape depth fuel shape
    | .list shape => do
      match ← next? with
      | some '[' =>
        let depth ← inner depth
        skip
        let items ← readShapedItems depth true fuel shape
        close ']'
        return array items
      | _ => refuse
    | .map => do
      match ← next? with
      | some '\x7b' =>
        let depth ← inner depth
        skip
        let members ← readMembers depth true fuel
        close '\x7d'
        return ofMembers members
      | _ => refuse
    | .record fields => do
      match ← next? with
      | some '\x7b' =>
        let depth ← inner depth
        skip
        let members ← readFields depth true fuel fields []
        if missing fields members then fail .mismatched
        close '\x7d'
        return ofMembers members
      | some '[' =>
        let depth ← inner depth
        skip
        let members ← readRow depth true fuel fields
        close ']'
        return ofMembers members
      | _ => refuse
termination_by structural fuel => fuel

def readShapedItems (depth : Nat) (first : Bool) : Nat → Shape → Read (List Json)
  | 0, _ => fail .malformed
  | fuel + 1, shape => do
    if ← moreItems first then
      let item ← readShape depth fuel shape
      let rest ← readShapedItems depth false fuel shape
      return item :: rest
    else
      return []
termination_by structural fuel => fuel

/-- Reads the members of a record; a known field may come once, and unknown ones are skipped. -/
def readFields (depth : Nat) (first : Bool) :
    Nat → List (String × Shape × Bool) → List (String × Json) → Read (List (String × Json))
  | 0, _, _ => fail .malformed
  | fuel + 1, fields, members => do
    if ← moreMembers first then
      let key ← readString true
      match fields.lookup key with
      | some (shape, _) =>
        if (members.lookup key).isSome then fail .mismatched
        colon
        let value ← readShape depth fuel shape
        readFields depth false fuel fields (members ++ [(key, value)])
      | none =>
        colon
        skipValue fuel
        readFields depth false fuel fields members
    else
      return members
termination_by structural fuel => fuel

def readRow (depth : Nat) (first : Bool) :
    Nat → List (String × Shape × Bool) → Read (List (String × Json))
  | 0, _ => fail .malformed
  | fuel + 1, fields =>
    match fields with
    | [] => return []
    | (name, shape, required) :: fields => do
      if ← moreItems first then
        let value ← readShape depth fuel shape
        let rest ← readRow depth false fuel fields
        return (name, value) :: rest
      else if required then
        fail .mismatched
      else
        readRow depth first fuel fields
termination_by structural fuel => fuel

end

/-! ## Whole texts -/

def finish : Read Unit := do
  match ← next? with
  | none => pure ()
  | some _ => fail .malformed

def readAll {α : Type} (text : String) (step : Nat → Read α) : Except JsonDefect α :=
  let chars := text.toList
  let whole : Read α := do
    let result ← step (2 * chars.length + 16)
    finish
    return result
  (whole.run chars).map Prod.fst

/-- The levels of nesting that a text may have, and one. -/
def depthLimit : Nat := 128

def read (text : String) : Except JsonDefect Json :=
  readAll text (readValue depthLimit)

/-- Reads a text as a value of a shape, in its normal form. -/
def readAs (shape : Shape) (text : String) : Except JsonDefect Json :=
  readAll text fun fuel => readShape depthLimit fuel shape

end EventGate.Json
