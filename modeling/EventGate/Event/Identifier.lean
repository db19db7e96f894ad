import EventGate.Digest.Keyed

/-! # Identifiers

Identifiers of sessions and events: sixteen random bytes, of which six bits tell that they are
random, in five groups of digits to base sixteen.
-/

namespace EventGate.Identifier

/-- The bytes with the bits set that tell how they were chosen. -/
def marked (bytes : List UInt8) : List UInt8 :=
  (bytes.modify 6 fun byte => (byte &&& 0x0f) ||| 0x40).modify 8 fun byte =>
    (byte &&& 0x3f) ||| 0x80

/-- The groups of digits: how many bytes each of them shows. -/
def groups : List Nat :=
  [4, 2, 2, 2, 6]

def split : List Nat → List UInt8 → List (List UInt8)
  | [], _ => []
  | size :: rest, bytes => bytes.take size :: split rest (bytes.drop size)

def ofBytes (bytes : List UInt8) : String :=
  "-".intercalate ((split groups (marked bytes)).map fun group =>
    String.ofList (Digest.hex group))

@[simp] theorem length_marked (bytes : List UInt8) : (marked bytes).length = bytes.length := by
  simp [marked]

/-- The groups hold sixteen bytes in their order. -/
theorem flatten_split_groups (bytes : List UInt8) :
    (split groups bytes).flatten = bytes.take 16 := by
  rw [show 16 = 4 + (2 + (2 + (2 + 6))) from rfl]
  simp only [List.take_add, List.drop_drop, groups, split, List.flatten_cons, List.flatten_nil,
    List.append_nil]

end EventGate.Identifier
