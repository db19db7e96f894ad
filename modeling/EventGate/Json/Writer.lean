import EventGate.Decimal.Layout
import EventGate.Json.Basic

/-! # Writing JSON

The compact form, without blanks, and the indented form, with two blanks for each level. Control
characters, quotes and backslashes are escaped and all else stands as it is.
-/

namespace EventGate

def JsonNumber.text : JsonNumber → String
  | whole n => intText n
  | real x => x.text .json

namespace Json

def hexChar (n : Nat) : Char :=
  (Nat.toDigits 16 n).headD '0'

def escapedChar (c : Char) : List Char :=
  match c with
  | '"' => ['\\', '"']
  | '\\' => ['\\', '\\']
  | '\x08' => ['\\', 'b']
  | '\x0c' => ['\\', 'f']
  | '\n' => ['\\', 'n']
  | '\r' => ['\\', 'r']
  | '\t' => ['\\', 't']
  | c =>
    if c.toNat < 32 then ['\\', 'u', '0', '0', hexChar (c.toNat / 16), hexChar (c.toNat % 16)]
    else [c]

def writeString (s : String) : String :=
  String.ofList ('"' :: s.toList.flatMap escapedChar ++ ['"'])

mutual

def write : Json → String
  | null => "null"
  | bool true => "true"
  | bool false => "false"
  | number n => n.text
  | string s => writeString s
  | array items => "[" ++ writeItems items ++ "]"
  | object members => "\x7b" ++ writeMembers members ++ "\x7d"

def writeItems : List Json → String
  | [] => ""
  | item :: rest => write item ++ writeMoreItems rest

def writeMoreItems : List Json → String
  | [] => ""
  | item :: rest => "," ++ write item ++ writeMoreItems rest

def writeMembers : List (String × Json) → String
  | [] => ""
  | (key, value) :: rest => writeString key ++ ":" ++ write value ++ writeMoreMembers rest

def writeMoreMembers : List (String × Json) → String
  | [] => ""
  | (key, value) :: rest =>
    "," ++ writeString key ++ ":" ++ write value ++ writeMoreMembers rest

end

def newLine (level : Nat) : String :=
  String.ofList ('\n' :: List.replicate (2 * level) ' ')

mutual

def indented (level : Nat) : Json → String
  | array (item :: rest) =>
    "[" ++ indentedItems (level + 1) (item :: rest) ++ newLine level ++ "]"
  | object (member :: rest) =>
    "\x7b" ++ indentedMembers (level + 1) (member :: rest) ++ newLine level ++ "\x7d"
  | value => write value

def indentedItems (level : Nat) : List Json → String
  | [] => ""
  | [item] => newLine level ++ indented level item
  | item :: rest => newLine level ++ indented level item ++ "," ++ indentedItems level rest

def indentedMembers (level : Nat) : List (String × Json) → String
  | [] => ""
  | [(key, value)] => newLine level ++ writeString key ++ ": " ++ indented level value
  | (key, value) :: rest =>
    newLine level ++ writeString key ++ ": " ++ indented level value ++ "," ++
      indentedMembers level rest

end

end Json

end EventGate
