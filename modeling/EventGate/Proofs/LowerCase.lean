import EventGate.Proofs.FinalSigma
import Mathlib.Data.List.Induction

/-! # Lower case

A text is folded place by place: a character has one small form wherever it stands, but for the
capital sigma, which asks whether it ends a word. One list of capitals gives all small forms, and no
small form has a capital of the list in it, so folding a text again changes nothing.
-/

namespace EventGate.Text

/-! ## Small forms -/

def asciiCapitals : LowerRun :=
  ⟨0x41, 0x5A, 1, 0x61⟩

/-- The capital i with a dot, without its dot. -/
def dottedCapital : LowerRun :=
  ⟨0x130, 0x130, 1, 0x69⟩

def capitals : List LowerRun :=
  asciiCapitals :: dottedCapital :: lowerRuns

/-- The small form of a character by the list of capitals alone. The dot of a capital i stays as a
mark of its own. -/
def smallForm (c : Char) : List Char :=
  if c = 'İ' then ['i', '\u0307']
  else
    match capitals.findSome? fun run => run.image? c.toNat with
    | some code => [Char.ofNat code]
    | none => [c]

theorem LowerRun.image?_of_lt {run : LowerRun} {code : Nat} (h : code < run.first) :
    run.image? code = none :=
  if_neg fun hletter => Nat.not_le_of_lt h hletter.1

theorem LowerRun.image?_of_gt {run : LowerRun} {code : Nat} (h : run.last < code) :
    run.image? code = none :=
  if_neg fun hletter => Nat.not_le_of_lt h hletter.2.1

theorem findSome?_capitals (code : Nat) :
    capitals.findSome? (fun run => run.image? code) =
      (asciiCapitals.image? code).or
        ((dottedCapital.image? code).or (lowerRuns.findSome? fun run => run.image? code)) := by
  rw [capitals, List.findSome?_cons, List.findSome?_cons]
  cases asciiCapitals.image? code <;> cases dottedCapital.image? code <;> rfl

/-- The short way through ASCII gives the small forms of the list. -/
theorem lowerChar_eq_smallForm (c : Char) : lowerChar c = smallForm c := by
  by_cases hascii : c.toNat < 128
  · have hletters : ∀ n < 128, [(Char.ofNat n).toLower] =
        match asciiCapitals.image? n with
        | some code => [Char.ofNat code]
        | none => [Char.ofNat n] := by
      decide +kernel
    have hbeyond : ∀ run ∈ lowerRuns, 128 ≤ run.first := by decide +kernel
    have hdotted : dottedCapital.image? c.toNat = none :=
      LowerRun.image?_of_lt (Nat.lt_trans hascii (by decide))
    have hruns : lowerRuns.findSome? (fun run => run.image? c.toNat) = none := by
      rw [List.findSome?_eq_none_iff]
      exact fun run hrun => LowerRun.image?_of_lt (Nat.lt_of_lt_of_le hascii (hbeyond run hrun))
    have hne : c ≠ 'İ' := by
      rintro rfl
      exact absurd hascii (by decide)
    have hlower := hletters c.toNat hascii
    rw [Char.ofNat_toNat] at hlower
    rw [lowerChar, if_pos hascii, hlower, smallForm, if_neg hne, findSome?_capitals, hdotted,
      hruns, Option.or_none, Option.or_none]
  · rw [lowerChar, if_neg hascii, smallForm]
    by_cases hdot : c = 'İ'
    · rw [if_pos hdot, if_pos hdot]
    · have hletters : asciiCapitals.image? c.toNat = none :=
        LowerRun.image?_of_gt (Nat.lt_of_lt_of_le (by decide) (Nat.le_of_not_lt hascii))
      have hdotted : dottedCapital.image? c.toNat = none := by
        have hcode : c.toNat ≠ 0x130 := fun h => hdot (Char.toNat_inj.mp h)
        rcases Nat.lt_or_gt_of_ne hcode with h | h
        · exact LowerRun.image?_of_lt h
        · exact LowerRun.image?_of_gt h
      rewrite [if_neg hdot, if_neg hdot, findSome?_capitals, hletters, hdotted, Option.none_or,
        Option.none_or]
      rfl

/-! ## No capitals in small forms -/

/-- A character that is its own small form, wherever it stands. -/
structure IsSmall (c : Char) : Prop where
  ne_sigma : c ≠ 'Σ'
  lowerChar_eq : lowerChar c = [c]

/-- No image of `run` is a letter of the other run: all lie in front of it, or behind it, or on the
places that it leaves out. -/
def LowerRun.keepsClear (run other : LowerRun) : Bool :=
  Nat.blt (run.target + (run.last - run.first)) other.first || Nat.blt other.last run.target ||
    (Nat.beq other.step 2 && (Nat.beq run.step 2 || Nat.beq run.first run.last) &&
      Nat.beq ((run.target + other.first) % 2) 1)

theorem LowerRun.image?_of_keepsClear {run other : LowerRun} (h : run.keepsClear other = true)
    {code image : Nat} (himage : run.image? code = some image) : other.image? image = none := by
  unfold image? at himage ⊢
  split at himage
  case isFalse => exact absurd himage (by simp)
  case isTrue hletter =>
    obtain ⟨hfirst, hlast, hstep⟩ := hletter
    simp only [Option.some.injEq] at himage
    simp only [keepsClear, Bool.or_eq_true, Bool.and_eq_true, Nat.blt_eq, Nat.beq_eq] at h
    rw [if_neg]
    rintro ⟨hfirst', hlast', hstep'⟩
    rcases h with (hbefore | hbehind) | ⟨⟨hother, hrun⟩, hodd⟩
    · omega
    · omega
    · rw [hother] at hstep'
      have heven : (code - run.first) % 2 = 0 := by
        rcases hrun with hrun | hrun
        · rwa [hrun] at hstep
        · omega
      omega

theorem keepsClear_of_mem {run other : LowerRun} (hrun : run ∈ capitals)
    (hother : other ∈ capitals) : run.keepsClear other = true := by
  -- Runs are compared in pairs, as there are too many letters to look each one up in all runs.
  have hall : (capitals.all fun run => capitals.all fun other => run.keepsClear other) = true := by
    decide +kernel
  exact List.all_eq_true.mp (List.all_eq_true.mp hall run hrun) other hother

/-- All images are code points of characters. -/
theorem isValidChar_of_image? {run : LowerRun} (hrun : run ∈ capitals) {code image : Nat}
    (himage : run.image? code = some image) : image.isValidChar := by
  have hall : ∀ run ∈ capitals, run.target + (run.last - run.first) < 0xD800 ∨
      0xDFFF < run.target ∧ run.target + (run.last - run.first) < 0x110000 := by
    decide +kernel
  have hrange := hall run hrun
  unfold LowerRun.image? at himage
  split at himage
  case isFalse => exact absurd himage (by simp)
  case isTrue hletter =>
    simp only [Option.some.injEq] at himage
    unfold Nat.isValidChar
    omega

theorem isSmall_of_findSome?_eq_none {c : Char}
    (h : capitals.findSome? (fun run => run.image? c.toNat) = none) : IsSmall c := by
  have hne {letter : Char}
      (hletter : capitals.findSome? (fun run => run.image? letter.toNat) ≠ none) : c ≠ letter := by
    rintro rfl
    exact hletter h
  constructor
  case ne_sigma => exact hne (by decide +kernel)
  case lowerChar_eq =>
    rw [lowerChar_eq_smallForm, smallForm, if_neg (hne (by decide +kernel)), h]

theorem isSmall_of_image? {run : LowerRun} (hrun : run ∈ capitals) {code image : Nat}
    (himage : run.image? code = some image) : IsSmall (Char.ofNat image) := by
  have hcode : (Char.ofNat image).toNat = image := by
    rw [Char.ofNat, dif_pos (isValidChar_of_image? hrun himage)]
    rfl
  apply isSmall_of_findSome?_eq_none
  rw [hcode, List.findSome?_eq_none_iff]
  exact fun other hother => LowerRun.image?_of_keepsClear (keepsClear_of_mem hrun hother) himage

/-- No small form has a capital in it. -/
theorem isSmall_of_mem_lowerChar {c d : Char} (h : d ∈ lowerChar c) : IsSmall d := by
  rw [lowerChar_eq_smallForm, smallForm] at h
  split at h
  next =>
    have hpair : d = 'i' ∨ d = '\u0307' := by simpa using h
    rcases hpair with rfl | rfl
    · exact isSmall_of_findSome?_eq_none (by decide +kernel)
    · exact isSmall_of_findSome?_eq_none (by decide +kernel)
  next =>
    split at h
    next image himage =>
      obtain ⟨run, hrun, himage⟩ := List.exists_of_findSome?_eq_some himage
      exact List.mem_singleton.mp h ▸ isSmall_of_image? hrun himage
    next hnone => exact List.mem_singleton.mp h ▸ isSmall_of_findSome?_eq_none hnone

/-! ## The end of a word -/

def isLetter (c : Char) : Bool :=
  isCased c && !isIgnorable c

/-- Marks and punctuation aside, a letter stands in front of the place, and none behind it. -/
structure IsWordEnd (before after : List Char) : Prop where
  letter_before : ∃ front c marks, before = front ++ c :: marks ∧ isLetter c = true ∧
    ∀ mark ∈ marks, isIgnorable mark = true
  no_letter_after : ¬ ∃ marks c back, after = marks ++ c :: back ∧ isLetter c = true ∧
    ∀ mark ∈ marks, isIgnorable mark = true

theorem startsCased_cons (c : Char) (rest : List Char) :
    startsCased (c :: rest) = if isIgnorable c then startsCased rest else isCased c := by
  unfold startsCased
  by_cases hmark : isIgnorable c = true
  · rw [List.dropWhile_cons_of_pos hmark, if_pos hmark]
  · rw [List.dropWhile_cons_of_neg hmark, if_neg hmark]

theorem endsCased_append_singleton (before : List Char) (c : Char) :
    endsCased (before ++ [c]) = casedAfter (endsCased before) c := by
  rw [endsCased, List.foldl_append]
  rfl

theorem startsCased_iff (after : List Char) :
    startsCased after = true ↔
      ∃ marks c back, after = marks ++ c :: back ∧ isLetter c = true ∧
        ∀ mark ∈ marks, isIgnorable mark = true := by
  induction after with
  | nil => simp [startsCased]
  | cons first rest ih =>
    rw [startsCased_cons]
    constructor
    · intro h
      split at h
      next hmark =>
        obtain ⟨marks, c, back, rfl, hletter, hmarks⟩ := ih.mp h
        refine ⟨first :: marks, c, back, rfl, hletter, ?_⟩
        exact List.forall_mem_cons.mpr ⟨hmark, hmarks⟩
      next hplain => exact ⟨[], first, rest, rfl, by simp [isLetter, h, hplain], by simp⟩
    · rintro ⟨marks, c, back, hsplit, hletter, hmarks⟩
      cases marks with
      | nil =>
        obtain ⟨rfl, rfl⟩ := List.cons.inj hsplit
        simp only [isLetter, Bool.and_eq_true, Bool.not_eq_true'] at hletter
        simp [hletter]
      | cons mark marks =>
        obtain ⟨rfl, rfl⟩ := List.cons.inj hsplit
        obtain ⟨hmark, hmarks⟩ := List.forall_mem_cons.mp hmarks
        rw [if_pos hmark]
        exact ih.mpr ⟨marks, c, back, rfl, hletter, hmarks⟩

/-- The scan from the front finds the letter that a scan from the back finds. -/
theorem endsCased_eq_startsCased_reverse (before : List Char) :
    endsCased before = startsCased before.reverse := by
  induction before using List.reverseRecOn with
  | nil => rfl
  | append_singleton before c ih =>
    rw [endsCased_append_singleton, List.reverse_append, List.reverse_singleton,
      List.singleton_append, startsCased_cons, casedAfter, ih]

theorem endsCased_iff (before : List Char) :
    endsCased before = true ↔
      ∃ front c marks, before = front ++ c :: marks ∧ isLetter c = true ∧
        ∀ mark ∈ marks, isIgnorable mark = true := by
  rw [endsCased_eq_startsCased_reverse, startsCased_iff]
  constructor
  · rintro ⟨marks, c, back, hsplit, hletter, hmarks⟩
    refine ⟨back.reverse, c, marks.reverse, ?_, hletter, by simpa using hmarks⟩
    rw [← List.reverse_reverse before, hsplit]
    simp
  · rintro ⟨front, c, marks, rfl, hletter, hmarks⟩
    exact ⟨marks.reverse, c, front.reverse, by simp, hletter, by simpa using hmarks⟩

theorem endsWord_iff (before after : List Char) :
    endsWord before after = true ↔ IsWordEnd before after := by
  rw [endsWord, Bool.and_eq_true, Bool.not_eq_true', ← Bool.not_eq_true, endsCased_iff,
    startsCased_iff]
  exact ⟨fun h => ⟨h.1, h.2⟩, fun h => ⟨h.letter_before, h.no_letter_after⟩⟩

instance (before after : List Char) : Decidable (IsWordEnd before after) :=
  decidable_of_iff _ (endsWord_iff before after)

/-! ## Place by place -/

def lowerAt (before : List Char) (c : Char) (after : List Char) : List Char :=
  if c = 'Σ' then [if IsWordEnd before after then 'ς' else 'σ'] else smallForm c

/-- The small forms of what stands behind `before`. -/
def lowerByPlace (before : List Char) : List Char → List Char
  | [] => []
  | c :: rest => lowerAt before c rest ++ lowerByPlace (before ++ [c]) rest

theorem lowerFrom_eq_lowerByPlace (before chars : List Char) :
    lowerFrom (endsCased before) chars = lowerByPlace before chars := by
  induction chars generalizing before with
  | nil => rfl
  | cons c rest ih =>
    rw [lowerFrom, lowerByPlace, lowerAt, ← ih, endsCased_append_singleton]
    by_cases hsigma : c = 'Σ'
    · rw [if_pos hsigma, if_pos hsigma, List.singleton_append]
      simp only [← endsWord_iff, endsWord]
    · rw [if_neg hsigma, if_neg hsigma, lowerChar_eq_smallForm]

theorem foldChars_eq_lowerByPlace (chars : List Char) :
    foldChars chars = lowerByPlace [] chars := by
  rw [foldChars_eq_lower]
  exact lowerFrom_eq_lowerByPlace [] chars

example : fold "ΟΔΟΣ \u212Aey" = "οδος key" := by decide +kernel

/-! ## Small texts -/

theorem lowerFrom_of_isSmall {chars : List Char} (h : ∀ c ∈ chars, IsSmall c) (cased : Bool) :
    lowerFrom cased chars = chars := by
  induction chars generalizing cased with
  | nil => rfl
  | cons c rest ih =>
    obtain ⟨hc, hrest⟩ := List.forall_mem_cons.mp h
    rw [lowerFrom, if_neg hc.ne_sigma, hc.lowerChar_eq, ih hrest, List.singleton_append]

theorem isSmall_of_mem_lowerFrom {cased : Bool} {chars : List Char} :
    ∀ c ∈ lowerFrom cased chars, IsSmall c := by
  have hforms : ∀ final : Bool, capitals.findSome? (fun run =>
      run.image? (if final then 'ς' else 'σ').toNat) = none := by
    decide +kernel
  induction chars generalizing cased with
  | nil => simp
  | cons c rest ih =>
    rw [lowerFrom]
    split
    · exact List.forall_mem_cons.mpr ⟨isSmall_of_findSome?_eq_none (hforms _), ih⟩
    · exact List.forall_mem_append.mpr ⟨fun d => isSmall_of_mem_lowerChar, ih⟩

theorem fold_fold (text : String) : fold (fold text) = fold text := by
  rw [← String.toList_inj, toList_fold, toList_fold, foldChars_eq_lower, foldChars_eq_lower]
  exact lowerFrom_of_isSmall isSmall_of_mem_lowerFrom false

end EventGate.Text
