import EventGate.Text.PrintTable

/-! # Quoted texts

A text between double quotes in which the quote, the backslash and every character without a
visible form of its own are spelled out.
-/

namespace EventGate.Text

def isPlain (c : Char) : Bool :=
  if c.toNat < 127 then decide (32 ≤ c.toNat)
  else !extendingRanges.contains c && !unprintableRanges.contains c

def hexDigits (n : Nat) : List Char :=
  Nat.toDigits 16 n

def quotedChar (c : Char) : List Char :=
  match c with
  | '\x00' => ['\\', '0']
  | '\t' => ['\\', 't']
  | '\r' => ['\\', 'r']
  | '\n' => ['\\', 'n']
  | '\\' => ['\\', '\\']
  | '"' => ['\\', '"']
  | c =>
    if isPlain c then [c]
    else ['\\', 'u', '\x7b'] ++ hexDigits c.toNat ++ ['\x7d']

def quoted (text : String) : String :=
  String.ofList ('"' :: text.toList.flatMap quotedChar ++ ['"'])

end EventGate.Text
