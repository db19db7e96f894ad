import EventGate.Log.Buffer
import EventGate.Log.Rotation

/-! # The log writer

Appends lines to the current file of a folder and puts the file aside when it is due. A writer
whose file is lost opens a new one with the next line.
-/

namespace EventGate

structure LogCounts where
  lines : Nat
  bytes : Nat
  rotations : Nat
  errors : Nat
deriving DecidableEq, Repr

/-- The current file. `linked` tells whether the folder still holds it, `waiting` is the text that
has not been written yet, and `size` counts that text too. -/
structure OpenFile where
  linked : Bool
  waiting : String
  size : Nat
  openedAt : Nat
deriving DecidableEq, Repr

/-- A writer and the place it writes to. `sequence` counts the names it gave to files put aside. -/
structure LogWriter where
  settings : LogSettings
  place : Place
  file : Option OpenFile
  sequence : Nat
  counts : LogCounts

namespace LogWriter

/-- Opens the current file, with the text that it may hold already. -/
def openFile (writer : LogWriter) (now : Nat) : Except FileFault LogWriter := do
  let files ← writer.place.files
  match files.get? LogName.current with
  | some text => return { writer with file := some ⟨true, "", text.utf8ByteSize, now⟩ }
  | none =>
    return { writer with
      place := .folder (files.put LogName.current "")
      file := some ⟨true, "", 0, now⟩ }

def create (settings : LogSettings) (place : Place) (now : Nat) : Except FileFault LogWriter := do
  let files ← place.makeFolder
  openFile ⟨settings, .folder files, none, 0, ⟨0, 0, 0, 0⟩⟩ now

/-- Text that reaches the current file. Nobody sees what reaches a file without a folder. -/
def emit (place : Place) (file : OpenFile) (text : String) : Place :=
  match place with
  | .folder files => if file.linked then .folder (files.append LogName.current text) else place
  | _ => place

def push (writer : LogWriter) (file : OpenFile) (text : String) : LogWriter × OpenFile :=
  let (written, waiting) := Buffer.add writer.settings.buffer file.waiting text
  ({ writer with place := emit writer.place file written }, { file with waiting })

def flushFile (writer : LogWriter) (file : OpenFile) : LogWriter × OpenFile :=
  ({ writer with place := emit writer.place file file.waiting }, { file with waiting := "" })

def flush (writer : LogWriter) : LogWriter :=
  match writer.file with
  | none => writer
  | some file =>
    let (writer, file) := flushFile writer file
    { writer with file := some file }

def failed (writer : LogWriter) : LogWriter :=
  { writer with counts := { writer.counts with errors := writer.counts.errors + 1 } }

def append (writer : LogWriter) (file : OpenFile) (line : String) : LogWriter × OpenFile :=
  let (writer, file) := push writer file line
  let (writer, file) := push writer file "\n"
  let (writer, file) := if writer.settings.immediate then flushFile writer file else (writer, file)
  let written := line.utf8ByteSize + 1
  ({ writer with counts := { writer.counts with
      lines := writer.counts.lines + 1
      bytes := writer.counts.bytes + written } },
    { file with size := file.size + written })

/-- Deletes the oldest of the files put aside, until at most `keep` are left. -/
def retain (keep : Nat) (files : Folder) : Folder :=
  let rotated := files.filter fun file => LogName.isRotated file.1
  let old := (rotated.take (rotated.length - keep)).map Prod.fst
  files.filter fun file => !old.contains file.1

/-- Puts a file aside in its folder under a new name. -/
def putAside (settings : LogSettings) (files : Folder) (name : String) :
    Except FileFault Folder :=
  match files.rename? LogName.current name with
  | none => .error .notFound
  | some files =>
    let files := if settings.compress then
        (files.rename? name (LogName.packed name)).getD files
      else files
    .ok (retain settings.keep files)

/-- Puts the current file aside and opens a new one. If that fails there is no current file. -/
def rotate (writer : LogWriter) (file : OpenFile) (now : Nat) : LogWriter :=
  let (writer, _) := flushFile writer file
  let sequence := writer.sequence + 1
  let writer := { writer with file := none, sequence }
  let aside := do
    putAside writer.settings (← writer.place.files) (LogName.rotated (now / 1000) sequence)
  match aside with
  | .error _ => writer.failed
  | .ok files =>
    let writer := { writer with
      place := .folder files
      counts := { writer.counts with rotations := writer.counts.rotations + 1 } }
    match writer.openFile now with
    | .ok writer => writer
    | .error _ => writer.failed

/-- Adds a line to an open file, and puts the file aside if it is due then. -/
def writeTo (writer : LogWriter) (file : OpenFile) (now : Nat) (line : String) : LogWriter :=
  let (writer, file) := append writer file line
  if writer.settings.rotation.isDue file.size file.openedAt now then writer.rotate file now
  else { writer with file := some file }

def write (writer : LogWriter) (now : Nat) (line : String) : LogWriter :=
  match writer.file with
  | some file => writer.writeTo file now line
  | none =>
    match writer.openFile now with
    | .error _ => writer.failed
    | .ok opened =>
      match opened.file with
      | some file => opened.writeTo file now line
      | none => opened

/-- The writer after its folder was taken away, with all that it held. -/
def loseFolder (writer : LogWriter) : LogWriter :=
  { writer with
    place := .missing
    file := writer.file.map fun file => { file with linked := false } }

def currentText (writer : LogWriter) : String :=
  ((writer.place.toList.get? LogName.current).getD "") ++
    ((writer.file.map OpenFile.waiting).getD "")

end LogWriter

end EventGate
