import EventGate.Proofs.LogLines
import EventGate.Proofs.SetAside

/-! # Logs that are opened again

A folder in which logs are opened, used and closed one after another. Each of them counts its files
from one, so a file takes the name of an earlier one exactly if both are the files of one number and
were put aside in the same second. Without that, a folder with room keeps every line.
-/

namespace EventGate

inductive LogUse where
  | post (post : LogPost)
  | flush

namespace LogUse

def written : LogUse → String
  | .post added => added.written
  | .flush => ""

def lines : LogUse → List String
  | .post added => [added.written]
  | .flush => []

end LogUse

def IsPartOf (part text : String) : Prop :=
  part.toList <:+: text.toList

theorem IsPartOf.append {part text : String} (h : IsPartOf part text) (more : String) :
    IsPartOf part (text ++ more) := by
  rw [IsPartOf, String.toList_append]
  exact h.trans (List.prefix_append _ _).isInfix

theorem isPartOf_append_self (text part : String) : IsPartOf part (text ++ part) := by
  rw [IsPartOf, String.toList_append]
  exact (List.suffix_append _ _).isInfix

theorem LogUse.isPartOf_written {u : LogUse} {line : String} (h : line ∈ u.lines) (text : String) :
    IsPartOf line (text ++ u.written) := by
  cases u with
  | post added =>
    obtain rfl := List.mem_singleton.mp h
    exact isPartOf_append_self text added.written
  | flush => exact absurd h List.not_mem_nil

theorem LogPost.written_ne_empty (post : LogPost) : ¬IsPartOf post.written "" := by
  intro h
  have hnil := List.infix_nil.mp h
  simp [LogPost.written] at hnil

namespace LogChannel

def use (channel : LogChannel) : LogUse → LogChannel
  | .post post => channel.next post
  | .flush =>
    match channel.flush with
    | .ok flushed => flushed
    | .error _ => channel

def afterUses (channel : LogChannel) (uses : List LogUse) : LogChannel :=
  uses.foldl use channel

def asideFile? (channel : LogChannel) : LogUse → Option AsideFile
  | .post post =>
    (channel.aside? post).map fun text =>
      ⟨post.now / 1000, channel.writer.sequence + 1, channel.writer.settings.compress, text⟩
  | .flush => none

def asideFiles : LogChannel → List LogUse → List AsideFile
  | _, [] => []
  | channel, u :: rest => (channel.asideFile? u).toList ++ asideFiles (channel.use u) rest

end LogChannel

structure LogOpening where
  id : String
  traits : ChannelTraits
  settings : LogSettings
  now : Nat
  uses : List LogUse

namespace LogOpening

def lines (opening : LogOpening) : List String :=
  opening.uses.flatMap LogUse.lines

def serve (opening : LogOpening) (place : Place) : Except Fault (List AsideFile × Place) :=
  match LogChannel.create opening.id opening.traits opening.settings place opening.now with
  | .error fault => .error fault
  | .ok channel =>
    .ok (channel.asideFiles opening.uses, (channel.afterUses opening.uses).close.writer.place)

/-- Logs that are opened in one place one after another. -/
def serveAll : List LogOpening → Place → Except Fault (List (List AsideFile) × Place)
  | [], place => .ok ([], place)
  | opening :: rest, place =>
    match opening.serve place with
    | .error fault => .error fault
    | .ok (own, place) =>
      match serveAll rest place with
      | .error fault => .error fault
      | .ok (others, last) => .ok (own :: others, last)

end LogOpening

/-! ## Lines in a folder -/

namespace Folder

def currentText (files : Folder) : String :=
  (files.get? LogName.current).getD ""

/-- A folder that has the files put aside, beside some rotated files that it had at the start; each
line stands in one of them or in the text of the current file. -/
structure Records (files : Folder) (start : Nat) (asides : List AsideFile) (text : String)
    (lines : List String) : Prop where
  count : files.rotatedCount ≤ start + asides.length
  holds : files.Holds asides
  found : ∀ line ∈ lines, (∃ file ∈ asides, IsPartOf line file.text) ∨ IsPartOf line text

theorem records_nil (files : Folder) (text : String) :
    files.Records files.rotatedCount [] text [] :=
  ⟨Nat.le_refl _, files.holds_nil, fun _ h => absurd h List.not_mem_nil⟩

section

variable {files later : Folder} {start : Nat} {asides : List AsideFile} {text : String}
  {lines : List String} (h : files.Records start asides text lines)

include h

/-- Records do not hang on what the folder holds under the name of the current file. -/
theorem Records.of_erase_eq (hsame : later.erase LogName.current = files.erase LogName.current) :
    later.Records start asides text lines :=
  ⟨rotatedCount_eq_of_erase_eq hsame ▸ h.count, h.holds.of_erase_eq hsame, h.found⟩

theorem Records.append (u : LogUse) :
    files.Records start asides (text ++ u.written) (lines ++ u.lines) := by
  refine ⟨h.count, h.holds, fun line hline => ?_⟩
  rcases List.mem_append.mp hline with hline | hline
  · exact (h.found line hline).imp id fun hpart => hpart.append u.written
  · exact .inr (u.isPartOf_written hline text)

/-- With room for one file more, the current text becomes the text of a file put aside. -/
theorem Records.putAside {settings : LogSettings} {file : AsideFile}
    (hpacks : file.packs = settings.compress) (htext : file.text = text)
    (hroom : start + (asides ++ [file]).length ≤ settings.keep) :
    ((LogWriter.retain settings.keep (settings.laidAside files file.name file.text)).put
      LogName.current "").Records start (asides ++ [file]) "" lines := by
  have hcount : (settings.laidAside files file.name file.text).rotatedCount ≤
      start + (asides ++ [file]).length := by
    have hone := settings.rotatedCount_laidAside_le files file.name file.text
    have hbefore := h.count
    rw [List.length_append, List.length_singleton]
    omega
  have hlaid : (settings.laidAside files file.name file.text).Records start (asides ++ [file]) ""
      lines := by
    refine ⟨hcount, settings.holds_laidAside h.holds hpacks, fun line hline => .inl ?_⟩
    rcases h.found line hline with ⟨other, hother, hpart⟩ | hpart
    · exact ⟨other, List.mem_append_left _ hother, hpart⟩
    · exact ⟨file, List.mem_append_right _ List.mem_cons_self, htext ▸ hpart⟩
  rw [LogWriter.retain_of_rotatedCount_le (Nat.le_trans hcount hroom)]
  exact hlaid.of_erase_eq (erase_put_self _ _ _)

end

end Folder

/-! ## One opening -/

namespace LogChannel

variable {settings : LogSettings} {channel : LogChannel} {text : String}

/-- All that a use can do to a log at work: the current text grows, or is put aside whole. -/
theorem Working.use_cases (h : channel.Working settings text) (u : LogUse) :
    (channel.asideFile? u = none ∧ (channel.use u).Working settings (text ++ u.written) ∧
      (channel.use u).files.erase LogName.current = channel.files.erase LogName.current ∧
      (channel.use u).writer.sequence = channel.writer.sequence) ∨
    ∃ file, channel.asideFile? u = some file ∧ file.number = channel.writer.sequence + 1 ∧
      file.packs = settings.compress ∧ file.text = text ++ u.written ∧
      (channel.use u).Working settings "" ∧
      (channel.use u).files =
        (LogWriter.retain settings.keep
          (settings.laidAside channel.files file.name file.text)).put LogName.current "" ∧
      (channel.use u).writer.sequence = channel.writer.sequence + 1 := by
  have ⟨hopen, hsettings, current, hrunning⟩ := h
  cases u with
  | flush =>
    have hflushed := LogWriter.flushFile_eq hrunning.place hrunning.linked
    have huse : channel.use .flush = { channel with writer := channel.writer.flush } := by
      simp [use, flush, hopen]
    have hwriter : channel.writer.flush =
        { channel.writer with
          place := .folder (channel.files.append LogName.current current.waiting)
          file := some { current with waiting := "" } } := by
      simp [LogWriter.flush, hrunning.opened, hflushed]
    rw [huse, hwriter, LogUse.written, String.append_empty]
    refine .inl ⟨rfl, ⟨hopen, hsettings, _, rfl, rfl, hrunning.linked, hrunning.stands.flushed,
      hrunning.size⟩, ?_, rfl⟩
    exact channel.files.erase_append _ _
  | post post =>
    have haside := h.aside?_eq post
    rw [use, h.next_eq, LogUse.written, LogPost.written, ← String.append_assoc]
    cases hdue : channel.writer.settings.rotation.isDue (text ++ post.line ++ "\n").utf8ByteSize
        current.openedAt post.now with
    | false =>
      obtain ⟨hnone, later, waiting, hwrite, hgrown, hstands⟩ := hrunning.write_of_not_due hdue
      rw [hwrite]
      exact .inl ⟨by simp [asideFile?, haside, hnone],
        ⟨hopen, hsettings, _, rfl, rfl, hrunning.linked, hstands, rfl⟩, hgrown.others, rfl⟩
    | true =>
      obtain ⟨hsome, hwrite⟩ := hrunning.write_of_due hdue
      have hstands := Folder.stands_put_current (channel.writer.nodup_names_rotatedFolder
        hrunning.stands.proper post.now (text ++ post.line ++ "\n"))
      rw [hwrite]
      refine .inr ⟨_, by rw [asideFile?, haside, hsome, Option.map_some], rfl,
        congrArg LogSettings.compress hsettings, rfl,
        ⟨hopen, hsettings, _, rfl, rfl, rfl, hstands, rfl⟩, ?_, rfl⟩
      rw [← hsettings]
      rfl

theorem Working.afterUses (uses : List LogUse) {channel : LogChannel} {text : String}
    (h : channel.Working settings text) :
    ∃ left,
      (channel.afterUses uses).Working settings left ∧
      (channel.asideFiles uses).map AsideFile.number =
        List.range' (channel.writer.sequence + 1) (channel.asideFiles uses).length ∧
      ∀ {start : Nat} {asides : List AsideFile} {lines : List String},
        channel.files.Records start asides text lines →
        start + (asides ++ channel.asideFiles uses).length ≤ settings.keep →
        (channel.afterUses uses).files.Records start (asides ++ channel.asideFiles uses) left
          (lines ++ uses.flatMap LogUse.lines) := by
  induction uses generalizing channel text with
  | nil => exact ⟨text, h, rfl, fun hrecords _ => by
      simpa [asideFiles, LogChannel.afterUses] using hrecords⟩
  | cons u rest ih =>
    obtain ⟨hnone, hnext, hsame, hsequence⟩ |
      ⟨file, hsome, hnumber, hpacks, htext, hnext, hfiles, hsequence⟩ := h.use_cases u
    · obtain ⟨left, hlast, hnumbers, hmore⟩ := ih hnext
      have hall : channel.asideFiles (u :: rest) = (channel.use u).asideFiles rest := by
        rw [asideFiles, hnone, Option.toList_none, List.nil_append]
      rw [hall, List.flatMap_cons]
      refine ⟨left, hlast, hsequence ▸ hnumbers, fun {start asides lines} hrecords hroom => ?_⟩
      have hbegun := (hrecords.append u).of_erase_eq hsame
      rw [← List.append_assoc]
      exact hmore hbegun hroom
    · obtain ⟨left, hlast, hnumbers, hmore⟩ := ih hnext
      have hall : channel.asideFiles (u :: rest) = file :: (channel.use u).asideFiles rest := by
        rw [asideFiles, hsome, Option.toList_some, List.singleton_append]
      rw [hall, List.flatMap_cons]
      refine ⟨left, hlast, ?_, fun {start asides lines} hrecords hroom => ?_⟩
      · rw [List.map_cons, List.length_cons, hnumbers, hsequence, hnumber, List.range'_succ]
      · rw [List.append_cons] at hroom ⊢
        rw [← List.append_assoc lines]
        refine hmore ?_ hroom
        have hfirst : start + (asides ++ [file]).length ≤ settings.keep := by
          rw [List.length_append] at hroom
          omega
        rw [hfiles]
        exact (hrecords.append u).putAside hpacks htext hfirst

theorem Working.close (h : channel.Working settings text) :
    ∃ files, channel.close.writer.place = .folder files ∧ files.names.Nodup ∧
      files.erase LogName.current = channel.files.erase LogName.current ∧
      files.currentText = text := by
  obtain ⟨hopen, -, current, hrunning⟩ := h
  have hflushed := LogWriter.flushFile_eq hrunning.place hrunning.linked
  refine ⟨channel.files.append LogName.current current.waiting, ?_, ?_, ?_, ?_⟩
  · simp [LogChannel.close, hopen, LogWriter.flush, hrunning.opened, hflushed]
  · rw [Folder.names_append]
    exact hrunning.stands.proper
  · exact channel.files.erase_append _ _
  · rw [Folder.currentText, hrunning.stands.get?_flushed, Option.getD_some]

end LogChannel

/-- A new writer begins to count and leaves the files alone that were put aside. -/
theorem LogWriter.of_create {settings : LogSettings} {place : Place} {now : Nat}
    {writer : LogWriter} (h : create settings place now = .ok writer) :
    writer.sequence = 0 ∧
      writer.place.toList.erase LogName.current = place.toList.erase LogName.current := by
  have hopened (files : Folder) (hfiles : place.toList = files)
      (hmade : openFile ⟨settings, .folder files, none, 0, ⟨0, 0, 0, 0⟩⟩ now = .ok writer) :
      writer.sequence = 0 ∧
        writer.place.toList.erase LogName.current = place.toList.erase LogName.current := by
    rw [hfiles]
    cases hcurrent : files.get? LogName.current with
    | some text =>
      simp only [openFile, Place.files, hcurrent, bind, Except.bind, pure, Except.pure,
        Except.ok.injEq] at hmade
      rw [← hmade]
      exact ⟨rfl, rfl⟩
    | none =>
      simp only [openFile, Place.files, hcurrent, bind, Except.bind, pure, Except.pure,
        Except.ok.injEq] at hmade
      rw [← hmade]
      exact ⟨rfl, files.erase_put_self _ _⟩
  cases place with
  | missing => exact hopened [] rfl h
  | blocked => simp [create, Place.makeFolder, bind, Except.bind] at h
  | folder files => exact hopened files rfl h

/-! ## One opening after another -/

namespace LogOpening

theorem serve_spec (opening : LogOpening) {place : Place} (hplace : place ≠ .blocked)
    (hnames : place.toList.names.Nodup) :
    ∃ asides files, opening.serve place = .ok (asides, .folder files) ∧ files.names.Nodup ∧
      asides.map AsideFile.number = List.range' 1 asides.length ∧
      ∀ {start : Nat} {before : List AsideFile} {lines : List String},
        place.toList.Records start before place.toList.currentText lines →
        start + (before ++ asides).length ≤ opening.settings.keep →
        files.Records start (before ++ asides) files.currentText (lines ++ opening.lines) := by
  obtain ⟨writer, file, files, hcreate, hrunning, hsettings, -⟩ :=
    LogWriter.exists_running_of_create opening.settings hplace hnames opening.now
  obtain ⟨hsequence, hothers⟩ := LogWriter.of_create hcreate
  let channel : LogChannel := ⟨opening.id, opening.traits, writer, false⟩
  have hfiles : channel.files = files := by
    rw [LogChannel.files, hrunning.place, Place.toList]
  have hopened : channel.Working opening.settings place.toList.currentText :=
    ⟨rfl, hsettings, file, hfiles ▸ hrunning⟩
  obtain ⟨left, hlast, hnumbers, hmore⟩ := hopened.afterUses opening.uses
  obtain ⟨closed, hclosed, hproper, hkept, htext⟩ := hlast.close
  refine ⟨channel.asideFiles opening.uses, closed, ?_, hproper, ?_, ?_⟩
  · simp [serve, LogChannel.create, hcreate, channel, ← hclosed]
  · rwa [show channel.writer.sequence = 0 from hsequence] at hnumbers
  · intro start before lines hrecords hroom
    rw [htext]
    exact (hmore (hrecords.of_erase_eq hothers) hroom).of_erase_eq hkept

theorem serveAll_spec (openings : List LogOpening) {place : Place} (hplace : place ≠ .blocked)
    (hnames : place.toList.names.Nodup) :
    ∃ groups last, serveAll openings place = .ok (groups, last) ∧
      (∀ group ∈ groups, group.map AsideFile.number = List.range' 1 group.length) ∧
      ∀ {start : Nat} {before : List AsideFile} {lines : List String},
        place.toList.Records start before place.toList.currentText lines →
        (∀ opening ∈ openings, start + (before ++ groups.flatten).length ≤ opening.settings.keep) →
        last.toList.Records start (before ++ groups.flatten) last.toList.currentText
          (lines ++ openings.flatMap LogOpening.lines) := by
  induction openings generalizing place with
  | nil =>
    refine ⟨[], place, rfl, fun _ h => absurd h List.not_mem_nil, fun hrecords _ => ?_⟩
    simpa using hrecords
  | cons opening rest ih =>
    obtain ⟨asides, files, hserve, hproper, hnumbers, hone⟩ := opening.serve_spec hplace hnames
    have hfolder : Place.folder files ≠ .blocked := by simp
    obtain ⟨groups, last, hrest, hall, hmore⟩ := ih hfolder hproper
    refine ⟨asides :: groups, last, by simp [serveAll, hserve, hrest],
      List.forall_mem_cons.mpr ⟨hnumbers, hall⟩, fun {start before lines} hrecords hroom => ?_⟩
    rw [List.flatten_cons, ← List.append_assoc] at hroom ⊢
    rw [List.flatMap_cons, ← List.append_assoc]
    have hfirst : start + (before ++ asides).length ≤ opening.settings.keep := by
      have hwhole := hroom opening List.mem_cons_self
      rw [List.length_append] at hwhole
      omega
    exact hmore (hone hrecords hfirst) fun other hother =>
      hroom other (List.mem_cons_of_mem _ hother)

end LogOpening

/-! ## Names that are taken again -/

/-- No file of a list takes a name of an earlier one, packed or not. -/
def AsideFile.NamesDiffer (files : List AsideFile) : Prop :=
  files.Pairwise fun earlier later => later.names.Disjoint earlier.names

/-- No two openings put their files of one number aside in the same second. -/
def AsideFile.SecondsDiffer (groups : List (List AsideFile)) : Prop :=
  groups.Pairwise fun first second =>
    ∀ a ∈ first, ∀ b ∈ second, a.number = b.number → a.second ≠ b.second

namespace AsideFile

theorem namesDiffer_iff_nodup {files : List AsideFile} :
    NamesDiffer files ↔ (files.map AsideFile.name).Nodup := by
  rw [NamesDiffer, List.Nodup, List.pairwise_map]
  simp only [disjoint_names_iff, ne_comm]

theorem namesDiffer_of_numbers {group : List AsideFile}
    (h : group.map AsideFile.number = List.range' 1 group.length) : NamesDiffer group := by
  have hincreasing : (group.map AsideFile.number).Pairwise (· < ·) := by
    rw [h]
    exact List.pairwise_lt_range'
  refine (List.pairwise_map.mp hincreasing).imp fun {earlier later} hless => ?_
  rw [disjoint_names_iff, ne_eq, name_eq_iff]
  exact fun hsame => Nat.ne_of_gt hless hsame.2

theorem namesDiffer_flatten_iff {groups : List (List AsideFile)}
    (h : ∀ group ∈ groups, group.map AsideFile.number = List.range' 1 group.length) :
    NamesDiffer groups.flatten ↔ SecondsDiffer groups := by
  have hcross (a b : AsideFile) :
      b.names.Disjoint a.names ↔ (a.number = b.number → a.second ≠ b.second) := by
    rw [disjoint_names_iff, ne_eq, name_eq_iff]
    constructor
    · exact fun hname hnumber hsecond => hname ⟨hsecond.symm, hnumber.symm⟩
    · exact fun hsecond hsame => hsecond hsame.2.symm hsame.1.symm
  rw [NamesDiffer, List.pairwise_flatten, SecondsDiffer]
  simp only [hcross]
  constructor
  · exact And.right
  · refine fun hgroups => ⟨fun group hgroup => ?_, hgroups⟩
    simpa only [NamesDiffer, hcross] using namesDiffer_of_numbers (h group hgroup)

end AsideFile

/-- Logs that are opened one after another take a name of an earlier file exactly if two of them put
their files of one number aside in the same second. With room for all files, each file stays until
its name is taken again, and if none is, every line that was written stands in some file. -/
theorem LogOpening.lines_stay_if_seconds_differ (openings : List LogOpening) {place : Place}
    (hplace : place ≠ .blocked) (hnames : place.toList.names.Nodup) :
    ∃ groups last, serveAll openings place = .ok (groups, last) ∧
      (∀ group ∈ groups, group.map AsideFile.number = List.range' 1 group.length) ∧
      (AsideFile.NamesDiffer groups.flatten ↔ AsideFile.SecondsDiffer groups) ∧
      ((∀ opening ∈ openings,
          place.toList.rotatedCount + groups.flatten.length ≤ opening.settings.keep) →
        last.toList.Holds groups.flatten ∧
        (AsideFile.SecondsDiffer groups → ∀ opening ∈ openings, ∀ post, .post post ∈ opening.uses →
          ∃ file ∈ last.toList, IsPartOf post.written file.2)) := by
  obtain ⟨groups, last, hserve, hnumbers, hmore⟩ := serveAll_spec openings hplace hnames
  have hiff := AsideFile.namesDiffer_flatten_iff hnumbers
  refine ⟨groups, last, hserve, hnumbers, hiff, fun hroom => ?_⟩
  have hrecords := hmore (place.toList.records_nil _) hroom
  refine ⟨hrecords.holds, fun hseconds opening hopening post hpost => ?_⟩
  have hline : post.written ∈ [] ++ openings.flatMap LogOpening.lines :=
    List.mem_flatMap.mpr ⟨opening, hopening,
      List.mem_flatMap.mpr ⟨_, hpost, List.mem_singleton_self _⟩⟩
  rcases hrecords.found _ hline with ⟨file, hfile, hpart⟩ | hpart
  · obtain ⟨before, later, hsplit⟩ := List.append_of_mem hfile
    have hdiffer : AsideFile.NamesDiffer (before ++ file :: later) := hsplit ▸ hiff.mpr hseconds
    have hfree : ∀ other ∈ later, other.name ≠ file.name := fun other hother =>
      AsideFile.disjoint_names_iff.mp
        ((List.pairwise_cons.mp (List.pairwise_append.mp hdiffer).2.1).1 other hother)
    have hheld := hrecords.holds file later ⟨before, hsplit.symm⟩ hfree
    exact ⟨_, Folder.mem_of_get?_eq_some hheld, hpart⟩
  · cases hcurrent : last.toList.get? LogName.current with
    | none =>
      rw [Folder.currentText, hcurrent] at hpart
      exact absurd hpart post.written_ne_empty
    | some text =>
      rw [Folder.currentText, hcurrent] at hpart
      exact ⟨_, Folder.mem_of_get?_eq_some hcurrent, hpart⟩

namespace LogOpening.Sample

def built : LogPost :=
  ⟨1000, LogChannel.Sample.build, []⟩

/-- A log that is opened for one post and puts its file aside with every line. -/
def opening (post : LogPost) : LogOpening :=
  ⟨"file", .default, ⟨"logs", .bySize 0, false, 2, 64, false⟩, post.now, [.post post]⟩

def later (now : Nat) : LogPost :=
  ⟨now, { LogChannel.Sample.build with name := "Op/Test" }, []⟩

def spaced : List LogOpening :=
  [opening built, opening (later 2000)]

def hasty : List LogOpening :=
  [opening built, opening (later 1900)]

end LogOpening.Sample

open LogOpening in
theorem two_openings_keep_both_lines :
    ∃ groups last, serveAll Sample.spaced .missing = .ok (groups, last) ∧
      AsideFile.NamesDiffer groups.flatten ∧
      (∃ file ∈ last.toList, IsPartOf Sample.built.written file.2) ∧
      ∃ file ∈ last.toList, IsPartOf (Sample.later 2000).written file.2 := by
  have hplace : Place.missing ≠ .blocked := by simp
  obtain ⟨groups, last, hserve, -, hiff, hkept⟩ :=
    lines_stay_if_seconds_differ Sample.spaced hplace (by decide)
  have hdone : (serveAll Sample.spaced .missing).toOption.map
      (fun done => done.1.flatten.map AsideFile.name) =
        some ["events.jsonl.1-1", "events.jsonl.2-1"] := by
    decide +kernel
  rw [hserve] at hdone
  have hnames : groups.flatten.map AsideFile.name = ["events.jsonl.1-1", "events.jsonl.2-1"] :=
    Option.some_inj.mp hdone
  have hdiffer : AsideFile.NamesDiffer groups.flatten := by
    rw [AsideFile.namesDiffer_iff_nodup, hnames]
    decide
  have hlength := congrArg List.length hnames
  rw [List.length_map] at hlength
  have hroom : ∀ opening ∈ Sample.spaced,
      Place.missing.toList.rotatedCount + groups.flatten.length ≤ opening.settings.keep := by
    rw [hlength]
    decide
  obtain ⟨-, hlines⟩ := hkept hroom
  have hfound := hlines (hiff.mp hdiffer)
  refine ⟨groups, last, hserve, hdiffer, ?_, ?_⟩
  · exact hfound (Sample.opening Sample.built) List.mem_cons_self _ List.mem_cons_self
  · exact hfound (Sample.opening (Sample.later 2000)) (by simp [Sample.spaced]) _
      List.mem_cons_self

open LogOpening in
/-- The second log takes the name of the first one's file, whose line is lost then. -/
theorem hasty_reopening_loses_a_line :
    ∃ groups last, serveAll Sample.hasty .missing = .ok (groups, last) ∧
      (∀ opening ∈ Sample.hasty, groups.flatten.length ≤ opening.settings.keep) ∧
      ¬AsideFile.NamesDiffer groups.flatten ∧
      ¬∃ file ∈ last.toList, IsPartOf Sample.built.written file.2 := by
  have hdone : (serveAll Sample.hasty .missing).toOption.map
      (fun done => (done.1.flatten.map AsideFile.name, done.2.toList.all fun file =>
        file.2.toList.length < Sample.built.written.toList.length)) =
        some (["events.jsonl.1-1", "events.jsonl.1-1"], true) := by
    decide +kernel
  cases hserve : serveAll Sample.hasty .missing with
  | error fault =>
    rw [hserve] at hdone
    cases hdone
  | ok done =>
    obtain ⟨groups, last⟩ := done
    rw [hserve] at hdone
    obtain ⟨hnames, hshorter⟩ := Prod.mk.inj (Option.some_inj.mp hdone)
    have hlength := congrArg List.length hnames
    rw [List.length_map] at hlength
    refine ⟨groups, last, rfl, ?_, ?_, ?_⟩
    · rw [hlength]
      decide
    · rw [AsideFile.namesDiffer_iff_nodup, hnames]
      decide
    · rintro ⟨file, hfile, hpart⟩
      have hless := of_decide_eq_true (List.all_eq_true.mp hshorter file hfile)
      exact absurd hpart.length_le (Nat.not_le.mpr hless)

end EventGate
