import EventGate.Channel.LogChannel
import EventGate.Proofs.LogWriting
import EventGate.Proofs.OneLine

/-! # The lines of a log

A log with a bounded file size is followed over its posts. The texts of the files that were put
aside, and behind them the text of the current file, are the first text and all lines in order.
-/

namespace EventGate

structure LogPost where
  now : Nat
  event : Event
  arguments : List RouteArgument

namespace LogPost

def line (post : LogPost) : String :=
  lineOf post.event post.arguments

def written (post : LogPost) : String :=
  post.line ++ "\n"

theorem utf8ByteSize_written (post : LogPost) :
    post.written.utf8ByteSize = post.line.utf8ByteSize + 1 :=
  String.utf8ByteSize_append

end LogPost

namespace LogChannel

def next (channel : LogChannel) (post : LogPost) : LogChannel :=
  channel.post post.now post.event post.arguments

def after (channel : LogChannel) (posts : List LogPost) : LogChannel :=
  posts.foldl next channel

@[simp] theorem after_nil (channel : LogChannel) : channel.after [] = channel := rfl

@[simp] theorem after_cons (channel : LogChannel) (post : LogPost) (rest : List LogPost) :
    channel.after (post :: rest) = (channel.next post).after rest := rfl

def files (channel : LogChannel) : Folder :=
  channel.writer.place.toList

def text (channel : LogChannel) : String :=
  channel.writer.currentText

/-- The text of the file that a post makes a channel put aside. -/
def aside? (channel : LogChannel) (post : LogPost) : Option String :=
  if channel.closed then none else channel.writer.aside? post.now post.line

def asides : LogChannel → List LogPost → List String
  | _, [] => []
  | channel, post :: rest => (channel.aside? post).toList ++ asides (channel.next post) rest

def asideName (channel : LogChannel) (post : LogPost) : String :=
  channel.writer.nextName post.now

def storedName (channel : LogChannel) (post : LogPost) : String :=
  channel.writer.settings.storedName (channel.asideName post)

/-- What a post does to a log that puts its file aside at a size: the line stays in a file that is
short of the limit, or the file that reaches it is put aside whole. -/
inductive AddsLine (limit keep : Nat) (channel : LogChannel) (post : LogPost) : Prop where
  | appends (aside : channel.aside? post = none)
      (text : (channel.next post).text = channel.text ++ post.written)
      (short : (channel.text ++ post.written).utf8ByteSize < limit)
      (files : channel.files.Grown (channel.next post).files)
  | putsAside (aside : channel.aside? post = some (channel.text ++ post.written))
      (text : (channel.next post).text = "")
      (long : limit ≤ (channel.text ++ post.written).utf8ByteSize)
      (stored : 0 < keep →
        (channel.next post).files.get? (channel.storedName post) =
          some (channel.text ++ post.written))
      (retained : channel.asideName post ∉ channel.files.names →
        channel.storedName post ∉ channel.files.names →
        (channel.next post).files.rotatedCount = min keep (channel.files.rotatedCount + 1))

/-- An open channel at work, with the text of its current file. -/
structure Working (settings : LogSettings) (channel : LogChannel) (text : String) : Prop where
  isOpen : channel.closed = false
  settings : channel.writer.settings = settings
  running : ∃ file, channel.writer.Running file channel.files text

section

variable {settings : LogSettings} {channel : LogChannel} {text : String}
variable (h : channel.Working settings text)

include h

theorem Working.text_eq : channel.text = text := by
  obtain ⟨file, hrunning⟩ := h.running
  exact hrunning.currentText_eq

theorem Working.next_eq (post : LogPost) :
    channel.next post =
      { channel with writer := channel.writer.write post.now post.line } := by
  simp [LogChannel.next, LogChannel.post, h.isOpen, LogPost.line]

theorem Working.aside?_eq (post : LogPost) :
    channel.aside? post = channel.writer.aside? post.now post.line := by
  simp [aside?, h.isOpen]

theorem Working.flush_eq :
    ∃ flushed, channel.flush = .ok flushed ∧
      flushed.files.get? LogName.current = some channel.text := by
  obtain ⟨file, hrunning⟩ := h.running
  have hflushed := LogWriter.flushFile_eq hrunning.place hrunning.linked
  refine ⟨{ channel with writer := channel.writer.flush }, by simp [flush, h.isOpen], ?_⟩
  rw [h.text_eq, ← hrunning.stands.get?_flushed]
  simp [LogChannel.files, LogWriter.flush, hrunning.opened, hflushed, Place.toList]

variable {limit : Nat} (hrotation : settings.rotation = .bySize limit)

include hrotation

theorem Working.isDue_iff (size openedAt now : Nat) :
    channel.writer.settings.rotation.isDue size openedAt now = true ↔ limit ≤ size := by
  rw [h.settings, hrotation, Rotation.isDue, decide_eq_true_eq]

theorem Working.next_of_short (post : LogPost)
    (hshort : (text ++ post.written).utf8ByteSize < limit) :
    channel.aside? post = none ∧
      (channel.next post).Working settings (text ++ post.written) ∧
      (channel.next post).writer.counts = channel.writer.countsWith post.line ∧
      channel.files.Grown (channel.next post).files := by
  obtain ⟨file, hrunning⟩ := h.running
  have hnot : ¬limit ≤ (text ++ post.line ++ "\n").utf8ByteSize := by
    rw [String.append_assoc]
    exact Nat.not_le.mpr hshort
  have hdue := Bool.eq_false_iff.mpr
    (mt (h.isDue_iff hrotation _ file.openedAt post.now).mp hnot)
  obtain ⟨haside, later, waiting, hwrite, hgrown, hstands⟩ := hrunning.write_of_not_due hdue
  rw [h.next_eq, hwrite, LogPost.written, ← String.append_assoc]
  exact ⟨(h.aside?_eq post).trans haside,
    ⟨h.isOpen, h.settings, _, rfl, rfl, hrunning.linked, hstands, rfl⟩, rfl, hgrown⟩

theorem Working.next_of_long (post : LogPost)
    (hlong : limit ≤ (text ++ post.written).utf8ByteSize) :
    channel.aside? post = some (text ++ post.written) ∧
      (channel.next post).Working settings "" ∧
      (channel.next post).writer.counts =
        { channel.writer.countsWith post.line with
          rotations := channel.writer.counts.rotations + 1 } ∧
      (channel.next post).files =
        (channel.writer.rotatedFolder channel.files post.now (text ++ post.written)).put
          LogName.current "" := by
  obtain ⟨file, hrunning⟩ := h.running
  rw [LogPost.written, ← String.append_assoc] at hlong ⊢
  have hdue := (h.isDue_iff hrotation _ file.openedAt post.now).mpr hlong
  obtain ⟨haside, hwrite⟩ := hrunning.write_of_due hdue
  have hstands := Folder.stands_put_current (channel.writer.nodup_names_rotatedFolder
    hrunning.stands.proper post.now (text ++ post.line ++ "\n"))
  rw [h.next_eq, hwrite]
  exact ⟨(h.aside?_eq post).trans haside,
    ⟨h.isOpen, h.settings, _, rfl, rfl, rfl, hstands, rfl⟩, rfl, rfl⟩

theorem Working.addsLine (post : LogPost) : channel.AddsLine limit settings.keep post := by
  obtain ⟨file, hrunning⟩ := h.running
  by_cases hshort : (text ++ post.written).utf8ByteSize < limit
  · obtain ⟨haside, hnext, -, hgrown⟩ := h.next_of_short hrotation post hshort
    apply AddsLine.appends haside
    · rw [hnext.text_eq, h.text_eq]
    · rwa [h.text_eq]
    · exact hgrown
  · have hlong : limit ≤ (text ++ post.written).utf8ByteSize := by omega
    obtain ⟨haside, hnext, -, hfiles⟩ := h.next_of_long hrotation post hlong
    have hkeep := congrArg LogSettings.keep h.settings
    apply AddsLine.putsAside
    · rw [haside, h.text_eq]
    · exact hnext.text_eq
    · rwa [h.text_eq]
    · intro hpositive
      have hname := LogName.ne_current_of_isRotated (channel.writer.settings.isRotated_storedName
        (channel.writer.isRotated_nextName post.now))
      rw [hfiles, Folder.get?_put, h.text_eq, LogChannel.storedName, asideName, if_neg hname]
      exact channel.writer.get?_rotatedFolder_storedName _ _ _ (hkeep ▸ hpositive)
    · intro hname hstored
      rw [hfiles, Folder.rotatedCount_put_current
        (channel.writer.get?_rotatedFolder_current _ _ _), ← hkeep]
      exact channel.writer.rotatedCount_rotatedFolder hrunning.stands.proper hname hstored _

/-- A post adds its line to the text that is put aside and the text that is left. -/
theorem Working.next (post : LogPost) :
    ∃ left,
      (channel.next post).Working settings left ∧
      String.join (channel.aside? post).toList ++ left = text ++ post.written ∧
      (channel.next post).writer.counts =
        { channel.writer.countsWith post.line with
          rotations := channel.writer.counts.rotations + (channel.aside? post).toList.length } := by
  by_cases hshort : (text ++ post.written).utf8ByteSize < limit
  · obtain ⟨haside, hnext, hcounts, -⟩ := h.next_of_short hrotation post hshort
    refine ⟨_, hnext, ?_, ?_⟩
    · simp [haside, String.join]
    · simp [haside, hcounts, LogWriter.countsWith]
  · obtain ⟨haside, hnext, hcounts, -⟩ := h.next_of_long hrotation post (by omega)
    refine ⟨_, hnext, ?_, ?_⟩
    · simp [haside, String.join]
    · simp [haside, hcounts]

end

theorem Working.after {settings : LogSettings} {limit : Nat}
    (hrotation : settings.rotation = .bySize limit) (posts : List LogPost) {channel : LogChannel}
    {text : String} (h : channel.Working settings text) :
    ∃ left,
      (channel.after posts).Working settings left ∧
      String.join (channel.asides posts) ++ left =
        text ++ String.join (posts.map LogPost.written) ∧
      (channel.after posts).writer.counts =
        { lines := channel.writer.counts.lines + posts.length
          bytes := channel.writer.counts.bytes +
            (String.join (posts.map LogPost.written)).utf8ByteSize
          rotations := channel.writer.counts.rotations + (channel.asides posts).length
          errors := channel.writer.counts.errors } := by
  induction posts generalizing channel text with
  | nil => exact ⟨text, h, by simp [asides, String.join], by simp [asides]⟩
  | cons post rest ih =>
    obtain ⟨between, hnext, hfirst, hcounts⟩ := h.next hrotation post
    obtain ⟨left, hlast, hothers, hmore⟩ := ih hnext
    refine ⟨left, hlast, ?_, ?_⟩
    · calc String.join (channel.asides (post :: rest)) ++ left
          = String.join (channel.aside? post).toList ++
              (String.join ((channel.next post).asides rest) ++ left) := by
            rw [asides, String.join_append, String.append_assoc]
        _ = text ++ post.written ++ String.join (rest.map LogPost.written) := by
            rw [hothers, ← String.append_assoc, hfirst]
        _ = text ++ String.join ((post :: rest).map LogPost.written) := by
            rw [List.map_cons, String.join_cons, String.append_assoc]
    · rw [after_cons, hmore, hcounts, LogWriter.countsWith, ← post.utf8ByteSize_written]
      simp only [asides, List.length_append, List.length_cons, List.map_cons, String.join_cons,
        String.utf8ByteSize_append, LogCounts.mk.injEq, and_true]
      omega

/-- A log that puts its file aside at a size neither loses nor splits nor reorders what is posted
to it. -/
theorem writes_every_line (id : String) (traits : ChannelTraits) {settings : LogSettings}
    {limit : Nat} (hrotation : settings.rotation = .bySize limit) {place : Place}
    (hplace : place ≠ .blocked) (hnames : place.toList.names.Nodup) (now : Nat) :
    ∃ channel, create id traits settings place now = .ok channel ∧ ∀ posts : List LogPost,
      (∀ post, IsOneLine post.line ∧ (channel.after posts).AddsLine limit settings.keep post) ∧
      String.join (channel.asides posts) ++ (channel.after posts).text =
        (place.toList.get? LogName.current).getD "" ++ String.join (posts.map LogPost.written) ∧
      (∃ flushed, (channel.after posts).flush = .ok flushed ∧
        flushed.files.get? LogName.current = some (channel.after posts).text) ∧
      (channel.after posts).writer.counts =
        { lines := posts.length
          bytes := (String.join (posts.map LogPost.written)).utf8ByteSize
          rotations := (channel.asides posts).length
          errors := 0 } := by
  obtain ⟨writer, file, files, hcreated, hrunning, hsettings, hcounts⟩ :=
    LogWriter.exists_running_of_create settings hplace hnames now
  let channel : LogChannel := ⟨id, traits, writer, false⟩
  have hfiles : channel.files = files := by
    rw [LogChannel.files, hrunning.place, Place.toList]
  have hworking : channel.Working settings ((place.toList.get? LogName.current).getD "") :=
    ⟨rfl, hsettings, file, hfiles ▸ hrunning⟩
  refine ⟨channel, by simp [create, hcreated, channel], ?_⟩
  intro posts
  obtain ⟨left, hlast, htexts, hall⟩ := hworking.after hrotation posts
  refine ⟨fun post => ⟨isOneLine_lineOf _ _, hlast.addsLine hrotation post⟩, ?_, hlast.flush_eq,
    ?_⟩
  · rw [hlast.text_eq, htexts]
  · simp [hall, channel, hcounts]

namespace Sample

def build : Event where
  id := "7"
  name := "Op/Build"
  timestamp := 0
  severity := .normal
  kind := .operation
  metric := none
  friendly := false
  friendlyNames := .empty
  properties := .empty
  excluded := .empty

def settings : LogSettings :=
  ⟨"logs", .bySize 150, true, 1, 64, false⟩

def place : Place :=
  .folder [("notes", ""), ("events.jsonl", "\x7b\x7d\n")]

def posts : List LogPost :=
  [⟨1000, build, []⟩, ⟨2000, build, []⟩, ⟨3000, build, [.stream 9]⟩]

end Sample

end LogChannel

open LogChannel in
/-- Three posts to a log whose files hold two lines. -/
theorem three_builds_are_logged :
    ∃ channel, create "file" .default Sample.settings Sample.place 0 = .ok channel ∧
      String.join (channel.asides Sample.posts) ++ (channel.after Sample.posts).text =
        "\x7b\x7d\n" ++ String.join (Sample.posts.map LogPost.written) ∧
      (channel.after Sample.posts).writer.counts.lines = 3 ∧
      (channel.after Sample.posts).writer.counts.bytes = 320 := by
  have hplace : Sample.place ≠ .blocked := by simp [Sample.place]
  have hrotation : Sample.settings.rotation = .bySize 150 := rfl
  obtain ⟨channel, hcreate, hposts⟩ :=
    writes_every_line "file" .default hrotation hplace (by decide) 0
  obtain ⟨-, htexts, -, hcounts⟩ := hposts Sample.posts
  have hbytes : (String.join (Sample.posts.map LogPost.written)).utf8ByteSize = 320 := by
    decide +kernel
  refine ⟨channel, hcreate, htexts, ?_, ?_⟩
  · rw [hcounts]
    rfl
  · rw [hcounts]
    exact hbytes

end EventGate
