import EventGate.Fault

/-! # Stored texts

One file that a text is read from and stored in: the local copy of a manifest, or a manifest that
somebody else writes.
-/

namespace EventGate

/-- What stands under the name of the file: nothing, a text, bytes that are no text, or a folder. -/
inductive Storage where
  | missing
  | text (content : String)
  | bytes
  | folder
deriving DecidableEq, Repr

namespace Storage

def read : Storage → Except FileFault String
  | missing => .error .notFound
  | text content => .ok content
  | bytes => .error .invalidData
  | folder => .error .isDirectory

def load? : Storage → Except FileFault (Option String)
  | missing => .ok none
  | text content => .ok (some content)
  | bytes => .error .invalidData
  | folder => .error .isDirectory

/-- Puts a text in the place of a file; a folder stays. -/
def store (storage : Storage) (content : String) : Storage :=
  match storage with
  | folder => folder
  | _ => text content

def isWritable (storage : Storage) : Bool :=
  storage != folder

theorem read_store {storage : Storage} (h : storage.isWritable = true) (content : String) :
    (storage.store content).read = .ok content := by
  cases storage <;> first | rfl | simp [isWritable] at h

end Storage

end EventGate
