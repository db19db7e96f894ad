import EventGate.Digest.Sha256

/-! # Keyed digests

The digest of a text under a key: the message is hashed behind the key in one mask and the result
again behind the key in another. The answer is written in lower-case digits to base sixteen.
-/

namespace EventGate.Digest

def keyBlock (key : List UInt8) : List UInt8 :=
  let key := if key.length ≤ 64 then key else sha256 key
  key ++ List.replicate (64 - key.length) 0

def keyed (key message : List UInt8) : List UInt8 :=
  let block := keyBlock key
  let inner := sha256 (block.map (· ^^^ 0x36) ++ message)
  sha256 (block.map (· ^^^ 0x5c) ++ inner)

def hexDigit (n : Nat) : Char :=
  if n < 10 then Char.ofNat ('0'.toNat + n) else Char.ofNat ('a'.toNat + (n - 10))

def hex (bytes : List UInt8) : List Char :=
  bytes.flatMap fun byte => [hexDigit (byte.toNat / 16), hexDigit (byte.toNat % 16)]

theorem length_hex (bytes : List UInt8) : (hex bytes).length = 2 * bytes.length := by
  induction bytes with
  | nil => rfl
  | cons byte rest ih =>
    simp only [hex, List.flatMap_cons, List.length_append, List.length_cons, List.length_nil]
    simp only [hex] at ih
    omega

/-- The key under which personal values are hashed. All digests depend on it. -/
def personalKey : String :=
  "telemetry.pii.hash.v1:5f0c2e7a9b1d4c36a8e2f7b0d9c1e4a3"

def ofText (text : String) : String :=
  String.ofList (hex (keyed personalKey.toUTF8.toList text.toUTF8.toList))

end EventGate.Digest
