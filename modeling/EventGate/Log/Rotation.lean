import EventGate.Log.Folder

/-! # Settings of a log

When the current file of a log is put aside, the names of its files, and how much is kept.
-/

namespace EventGate

/-- When the current file is put aside: when it has a size in bytes, when it is some seconds old,
or when a day or an hour has ended since it was opened. -/
inductive Rotation where
  | bySize (bytes : Nat)
  | byAge (seconds : Nat)
  | daily
  | hourly
  | never
deriving DecidableEq, Repr

namespace Rotation

/-- Whether a file of a size, opened at one time, is put aside at another; times are milliseconds.
A clock that went back shows no age. -/
def isDue (rotation : Rotation) (size openedAt now : Nat) : Bool :=
  match rotation with
  | bySize bytes => decide (bytes ≤ size)
  | byAge seconds => decide (seconds ≤ (now - openedAt) / 1000)
  | daily => decide (openedAt / 86400000 < now / 86400000)
  | hourly => decide (openedAt / 3600000 < now / 3600000)
  | never => false

end Rotation

/-- The settings of a log. `keep` bounds the number of files put aside, and `buffer` the bytes that
wait to be written. -/
structure LogSettings where
  directory : String
  rotation : Rotation
  compress : Bool
  keep : Nat
  buffer : Nat
  immediate : Bool
deriving DecidableEq, Repr

/-- Files of 16 MiB, packed when they are put aside. -/
def LogSettings.standard (directory : String) : LogSettings where
  directory := directory
  rotation := .bySize 16777216
  compress := true
  keep := 10
  buffer := 8192
  immediate := false

namespace LogName

def current : String := "events.jsonl"

def rotatedStart : String := "events.jsonl."

/-- The name for a file that is put aside in a second, as one of a writer's files. -/
def rotated (second sequence : Nat) : String :=
  rotatedStart ++ second.repr ++ "-" ++ sequence.repr

def packed (name : String) : String :=
  name ++ ".gz"

def isRotated (name : String) : Bool :=
  rotatedStart.toList.isPrefixOf name.toList

theorem isRotated_rotated (second sequence : Nat) : isRotated (rotated second sequence) = true := by
  simp [isRotated, rotated, List.isPrefixOf_iff_prefix, String.toList_append, List.append_assoc]

end LogName

end EventGate
