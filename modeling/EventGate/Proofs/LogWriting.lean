import EventGate.Proofs.LogFolder

/-! # Writing to a log

The text of a current file is what its folder holds and what still waits in the buffer. A line is
added at the end of this text, and a file that is due is put aside with all of it.
-/

namespace EventGate

namespace Folder

/-- A folder whose current file alone has changed. -/
structure Grown (files later : Folder) : Prop where
  names : later.names = files.names
  others : later.erase LogName.current = files.erase LogName.current

theorem Grown.trans {files later last : Folder} (h : files.Grown later) (hlast : later.Grown last) :
    files.Grown last :=
  ⟨hlast.names.trans h.names, hlast.others.trans h.others⟩

theorem grown_append (files : Folder) (text : String) :
    files.Grown (files.append LogName.current text) :=
  ⟨files.names_append _ _, files.erase_append _ _⟩

/-- A folder of distinct names whose current file has a text, with what waits at its end. -/
structure Stands (files : Folder) (waiting text : String) : Prop where
  proper : files.names.Nodup
  text : ∃ written, files.get? LogName.current = some written ∧ written ++ waiting = text

theorem Stands.append {files : Folder} {waiting text : String} (h : files.Stands waiting text)
    {written rest more : String} (hsame : written ++ rest = waiting ++ more) :
    (files.append LogName.current written).Stands rest (text ++ more) := by
  obtain ⟨before, hbefore, htext⟩ := h.text
  refine ⟨?_, before ++ written, ?_, ?_⟩
  · rw [names_append]
    exact h.proper
  · rw [get?_append, hbefore]
    rfl
  · rw [String.append_assoc, hsame, ← String.append_assoc, htext]

theorem Stands.get?_flushed {files : Folder} {waiting text : String}
    (h : files.Stands waiting text) :
    (files.append LogName.current waiting).get? LogName.current = some text := by
  obtain ⟨written, hwritten, htext⟩ := h.text
  rw [get?_append, hwritten, Option.map_some, htext]

theorem Stands.flushed {files : Folder} {waiting text : String} (h : files.Stands waiting text) :
    (files.append LogName.current waiting).Stands "" text := by
  have happended := h.append (rfl : waiting ++ "" = waiting ++ "")
  rwa [String.append_empty] at happended

theorem stands_put_current {files : Folder} (h : files.names.Nodup) :
    (files.put LogName.current "").Stands "" "" := by
  refine ⟨nodup_names_put h _ _, "", ?_, rfl⟩
  rw [get?_put, if_pos rfl]

theorem rotatedCount_put_current {files : Folder} (h : files.get? LogName.current = none)
    (text : String) : (files.put LogName.current text).rotatedCount = files.rotatedCount := by
  rw [rotatedCount_put (get?_eq_none_iff.mp h)]
  rfl

end Folder

namespace LogWriter

def countsWith (writer : LogWriter) (line : String) : LogCounts :=
  { writer.counts with
    lines := writer.counts.lines + 1
    bytes := writer.counts.bytes + (line.utf8ByteSize + 1) }

def nextName (writer : LogWriter) (now : Nat) : String :=
  LogName.rotated (now / 1000) (writer.sequence + 1)

/-- The folder when the current file has been put aside with its text, and old files are deleted. -/
def rotatedFolder (writer : LogWriter) (files : Folder) (now : Nat) (text : String) : Folder :=
  retain writer.settings.keep (writer.settings.laidAside files (writer.nextName now) text)

theorem isRotated_nextName (writer : LogWriter) (now : Nat) :
    LogName.isRotated (writer.nextName now) = true :=
  LogName.isRotated_rotated _ _

theorem get?_rotatedFolder_current (writer : LogWriter) (files : Folder) (now : Nat)
    (text : String) : (writer.rotatedFolder files now text).get? LogName.current = none :=
  get?_retain_eq_none
    (writer.settings.get?_laidAside_current files (writer.isRotated_nextName now) text) _

theorem nodup_names_rotatedFolder (writer : LogWriter) {files : Folder} (h : files.names.Nodup)
    (now : Nat) (text : String) : (writer.rotatedFolder files now text).names.Nodup :=
  nodup_names_retain (writer.settings.nodup_names_laidAside h _ _) _

/-- The file that is put aside is not deleted at once if any file is kept. -/
theorem get?_rotatedFolder_storedName (writer : LogWriter) (files : Folder) (now : Nat)
    (text : String) (hkeep : 0 < writer.settings.keep) :
    (writer.rotatedFolder files now text).get?
      (writer.settings.storedName (writer.nextName now)) = some text :=
  get?_retain_put (writer.settings.isRotated_storedName (writer.isRotated_nextName now)) hkeep text

theorem rotatedCount_rotatedFolder (writer : LogWriter) {files : Folder} (h : files.names.Nodup)
    {now : Nat} (hname : writer.nextName now ∉ files.names)
    (hstored : writer.settings.storedName (writer.nextName now) ∉ files.names) (text : String) :
    (writer.rotatedFolder files now text).rotatedCount =
      min writer.settings.keep (files.rotatedCount + 1) := by
  rw [rotatedFolder, rotatedCount_retain (writer.settings.nodup_names_laidAside h _ _),
    writer.settings.rotatedCount_laidAside (writer.isRotated_nextName now) hname hstored]

section

variable {writer : LogWriter} {file : OpenFile} {files : Folder} {text : String}
variable (hplace : writer.place = .folder files) (hlinked : file.linked = true)

include hplace hlinked

theorem flushFile_eq :
    flushFile writer file =
      ({ writer with place := .folder (files.append LogName.current file.waiting) },
        { file with waiting := "" }) := by
  simp [flushFile, emit, hplace, hlinked]

variable (h : files.Stands file.waiting text)

include h

theorem push_eq (more : String) :
    ∃ later waiting,
      push writer file more =
        ({ writer with place := .folder later }, { file with waiting }) ∧
      files.Grown later ∧ later.Stands waiting (text ++ more) := by
  have hsame := Buffer.add_fst_append_snd writer.settings.buffer file.waiting more
  refine ⟨_, _, ?_, files.grown_append _, h.append hsame⟩
  simp [push, emit, hplace, hlinked]

theorem append_eq (line : String) :
    ∃ later waiting,
      append writer file line =
        ({ writer with
            place := .folder later
            counts := writer.countsWith line },
          { file with waiting, size := file.size + (line.utf8ByteSize + 1) }) ∧
      files.Grown later ∧ later.Stands waiting (text ++ line ++ "\n") := by
  obtain ⟨first, w, hfirst, hgrown, hstands⟩ := push_eq hplace hlinked h line
  let pushed : LogWriter := { writer with place := .folder first }
  let held : OpenFile := { file with waiting := w }
  have hpushed : pushed.place = .folder first := rfl
  have hheld : held.linked = true := hlinked
  obtain ⟨second, v, hsecond, hmore, hended⟩ := push_eq hpushed hheld hstands "\n"
  have hwhole := hgrown.trans hmore
  cases himmediate : writer.settings.immediate with
  | false =>
    refine ⟨second, v, ?_, hwhole, hended⟩
    simp [append, hfirst, hsecond, himmediate, pushed, held, countsWith]
  | true =>
    have hflushed : flushFile { writer with place := .folder second } { file with waiting := v } =
        ({ writer with place := .folder (second.append LogName.current v) },
          { file with waiting := "" }) := flushFile_eq rfl hlinked
    refine ⟨second.append LogName.current v, "", ?_, hwhole.trans (second.grown_append v),
      hended.flushed⟩
    simp [append, hfirst, hsecond, himmediate, pushed, held, hflushed, countsWith]

/-- The current file becomes the file put aside, and a new one without a text is opened. -/
theorem rotate_eq (now : Nat) :
    rotate writer file now =
      { writer with
        place := .folder ((writer.rotatedFolder files now text).put LogName.current "")
        file := some ⟨true, "", 0, now⟩
        sequence := writer.sequence + 1
        counts := { writer.counts with rotations := writer.counts.rotations + 1 } } := by
  have hsame : writer.settings.laidAside (files.append LogName.current file.waiting)
      (writer.nextName now) text = writer.settings.laidAside files (writer.nextName now) text := by
    rw [LogSettings.laidAside, Folder.erase_append, LogSettings.laidAside]
  have haside : putAside writer.settings (files.append LogName.current file.waiting)
      (LogName.rotated (now / 1000) (writer.sequence + 1)) =
        .ok (writer.rotatedFolder files now text) := by
    rw [rotatedFolder, ← hsame]
    exact putAside_eq h.get?_flushed _
  have hnone := writer.get?_rotatedFolder_current files now text
  simp [rotate, flushFile_eq hplace hlinked, Place.files, haside, openFile, hnone, bind,
    Except.bind, pure, Except.pure]

end

/-! ## A writer at work -/

/-- A writer whose current file is open and stands in a folder, with a text that its size counts. -/
structure Running (writer : LogWriter) (file : OpenFile) (files : Folder) (text : String) :
    Prop where
  opened : writer.file = some file
  place : writer.place = .folder files
  linked : file.linked = true
  stands : files.Stands file.waiting text
  size : file.size = text.utf8ByteSize

/-- The text of the file that a line makes a writer put aside, as its folder holds it then. -/
def asideFrom (writer : LogWriter) (file : OpenFile) (now : Nat) (line : String) : Option String :=
  let (writer, file) := writer.append file line
  if writer.settings.rotation.isDue file.size file.openedAt now then
    (writer.flushFile file).1.place.toList.get? LogName.current
  else none

def aside? (writer : LogWriter) (now : Nat) (line : String) : Option String :=
  match writer.file with
  | some file => writer.asideFrom file now line
  | none =>
    match writer.openFile now with
    | .error _ => none
    | .ok opened => opened.file.bind fun file => opened.asideFrom file now line

section

variable {writer : LogWriter} {file : OpenFile} {files : Folder} {text : String}
variable (h : writer.Running file files text)

include h

theorem Running.currentText_eq : writer.currentText = text := by
  obtain ⟨written, hwritten, htext⟩ := h.stands.text
  simp [currentText, h.opened, h.place, Place.toList, hwritten, htext]

theorem Running.append_eq (line : String) :
    ∃ later waiting,
      append writer file line =
        ({ writer with place := .folder later, counts := writer.countsWith line },
          { file with waiting, size := (text ++ line ++ "\n").utf8ByteSize }) ∧
      files.Grown later ∧ later.Stands waiting (text ++ line ++ "\n") := by
  have hsize : file.size + (line.utf8ByteSize + 1) = (text ++ line ++ "\n").utf8ByteSize := by
    rw [h.size, String.utf8ByteSize_append, String.utf8ByteSize_append, Nat.add_assoc]
    rfl
  rw [← hsize]
  exact LogWriter.append_eq h.place h.linked h.stands line

variable {now : Nat} {line : String}

theorem Running.write_of_not_due
    (hdue : writer.settings.rotation.isDue (text ++ line ++ "\n").utf8ByteSize file.openedAt now =
      false) :
    writer.aside? now line = none ∧ ∃ later waiting,
      writer.write now line =
        { writer with
          place := .folder later
          file := some { file with waiting, size := (text ++ line ++ "\n").utf8ByteSize }
          counts := writer.countsWith line } ∧
      files.Grown later ∧ later.Stands waiting (text ++ line ++ "\n") := by
  obtain ⟨later, waiting, happend, hgrown, hstands⟩ := h.append_eq line
  generalize text ++ line ++ "\n" = whole at *
  refine ⟨?_, later, waiting, ?_, hgrown, hstands⟩
  · simp [aside?, asideFrom, h.opened, happend, hdue]
  · simp [write, writeTo, h.opened, happend, hdue]

theorem Running.write_of_due
    (hdue : writer.settings.rotation.isDue (text ++ line ++ "\n").utf8ByteSize file.openedAt now =
      true) :
    writer.aside? now line = some (text ++ line ++ "\n") ∧
    writer.write now line =
      { writer with
        place := .folder
          ((writer.rotatedFolder files now (text ++ line ++ "\n")).put LogName.current "")
        file := some ⟨true, "", 0, now⟩
        sequence := writer.sequence + 1
        counts := { writer.countsWith line with rotations := writer.counts.rotations + 1 } } := by
  obtain ⟨later, waiting, happend, hgrown, hstands⟩ := h.append_eq line
  generalize text ++ line ++ "\n" = whole at *
  let ended : LogWriter :=
    { writer with place := .folder later, counts := writer.countsWith line }
  let last : OpenFile := { file with waiting, size := whole.utf8ByteSize }
  have hdone : append writer file line = (ended, last) := happend
  have hrotates : ended.settings.rotation.isDue last.size last.openedAt now = true := hdue
  have hplace : ended.place = .folder later := rfl
  have hlinked : last.linked = true := h.linked
  have hflushed := flushFile_eq hplace hlinked
  have hrotated := rotate_eq hplace hlinked hstands now
  have hfolder : ended.rotatedFolder later now whole = writer.rotatedFolder files now whole := by
    rw [rotatedFolder, LogSettings.laidAside, hgrown.others]
    rfl
  constructor
  · simpa [aside?, asideFrom, h.opened, hdone, hrotates, hflushed, Place.toList] using
      hstands.get?_flushed
  · rw [write, h.opened]
    simp only [writeTo, hdone, hrotates, if_true]
    rw [hrotated, hfolder]
    rfl

end

/-- A new writer opens the current file with the text that it may hold already. -/
theorem exists_running_of_create (settings : LogSettings) {place : Place}
    (hplace : place ≠ .blocked) (hnames : place.toList.names.Nodup) (now : Nat) :
    ∃ writer file files,
      create settings place now = .ok writer ∧
      writer.Running file files ((place.toList.get? LogName.current).getD "") ∧
      writer.settings = settings ∧ writer.counts = ⟨0, 0, 0, 0⟩ := by
  have hmade : place.makeFolder = .ok place.toList := by
    cases place with
    | missing => rfl
    | blocked => exact absurd rfl hplace
    | folder files => rfl
  cases hcurrent : place.toList.get? LogName.current with
  | some text =>
    refine ⟨⟨settings, .folder place.toList, some ⟨true, "", text.utf8ByteSize, now⟩, 0,
      ⟨0, 0, 0, 0⟩⟩, ⟨true, "", text.utf8ByteSize, now⟩, place.toList, ?_, ?_, rfl, rfl⟩
    · simp [create, hmade, openFile, Place.files, hcurrent, bind, Except.bind, pure, Except.pure]
    · exact ⟨rfl, rfl, rfl, ⟨hnames, text, hcurrent, String.append_empty⟩, rfl⟩
  | none =>
    refine ⟨⟨settings, .folder (place.toList.put LogName.current ""), some ⟨true, "", 0, now⟩, 0,
      ⟨0, 0, 0, 0⟩⟩, ⟨true, "", 0, now⟩, place.toList.put LogName.current "", ?_, ?_, rfl, rfl⟩
    · simp [create, hmade, openFile, Place.files, hcurrent, bind, Except.bind, pure, Except.pure]
    · exact ⟨rfl, rfl, rfl, Folder.stands_put_current hnames, rfl⟩

end LogWriter

end EventGate
