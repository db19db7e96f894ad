/-! # Packed files

The file format of a log file that was put aside and packed: a header, the bytes in blocks, and at
the end their checksum and count. The blocks hold the bytes as they are.
-/

namespace EventGate.Packed

/-- One step of the checksum: the remainder is shifted, and reduced if a bit falls out. -/
def reduce (remainder : UInt32) : UInt32 :=
  if remainder &&& 1 = 1 then (remainder >>> 1) ^^^ 0xEDB88320 else remainder >>> 1

def checksumByte (remainder : UInt32) (byte : UInt8) : UInt32 :=
  Nat.repeat reduce 8 (remainder ^^^ byte.toUInt32)

def checksum (bytes : ByteArray) : UInt32 :=
  ~~~(bytes.data.foldl checksumByte 0xFFFFFFFF)

def lowBytes (count number : Nat) : List UInt8 :=
  (List.range count).map fun i => (number >>> (8 * i)).toUInt8

/-- The header: the format, the method, no extra fields, and no time. -/
def header : List UInt8 :=
  [0x1F, 0x8B, 8, 0, 0, 0, 0, 0, 0, 0xFF]

def blockSize : Nat := 65535

/-- One block, which tells whether it is the last one, its length, and the complement of that. -/
def block (isLast : Bool) (bytes : List UInt8) : List UInt8 :=
  (if isLast then 1 else 0) :: lowBytes 2 bytes.length ++ lowBytes 2 (blockSize - bytes.length) ++
    bytes

/-- The blocks of all bytes; without bytes there is one empty block. -/
def blocks (bytes : List UInt8) : List UInt8 :=
  if bytes.length ≤ blockSize then block true bytes
  else block false (bytes.take blockSize) ++ blocks (bytes.drop blockSize)
termination_by bytes.length
decreasing_by
  have : 0 < blockSize := by decide
  simp only [List.length_drop]
  omega

def ofText (text : String) : ByteArray :=
  let bytes := text.toUTF8
  ⟨(header ++ blocks bytes.toList ++ lowBytes 4 (checksum bytes).toNat ++
    lowBytes 4 bytes.size).toArray⟩

@[simp] theorem length_lowBytes (count number : Nat) : (lowBytes count number).length = count := by
  simp [lowBytes]

end EventGate.Packed
