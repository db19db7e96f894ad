import EventGate.Text.CaseTable

/-! # Case folding

Names are compared by their lower-case forms. A capital sigma becomes the final sigma at the end
of a word and the plain one elsewhere; every other character is mapped on its own.
-/

namespace EventGate.Text

/-- The lower-case form of a character, whatever stands around it. -/
def lowerChar (c : Char) : List Char :=
  if c.toNat < 128 then [c.toLower]
  else if c = 'İ' then ['i', '\u0307']
  else
    match lowerRuns.findSome? fun run => run.image? c.toNat with
    | some code => [Char.ofNat code]
    | none => [c]

def isCased (c : Char) : Bool :=
  casedRanges.contains c

def isIgnorable (c : Char) : Bool :=
  ignorableRanges.contains c

/-- The first character that casing does not look through has case. -/
def startsCased (chars : List Char) : Bool :=
  match chars.dropWhile isIgnorable with
  | [] => false
  | c :: _ => isCased c

/-- Whether a letter with case precedes, once `c` has been passed. -/
def casedAfter (cased : Bool) (c : Char) : Bool :=
  if isIgnorable c then cased else isCased c

/-- Lower case of `chars` after a part of the text whose last character that counts has case, or
has not. -/
def lowerFrom (cased : Bool) : List Char → List Char
  | [] => []
  | c :: rest =>
    if c = 'Σ' then
      (if cased && !startsCased rest then 'ς' else 'σ') :: lowerFrom (casedAfter cased c) rest
    else
      lowerChar c ++ lowerFrom (casedAfter cased c) rest

@[simp] theorem lowerFrom_nil (cased : Bool) : lowerFrom cased [] = [] := rfl

def lower (chars : List Char) : List Char :=
  lowerFrom false chars

/-- The form under which names are compared: lower case, letter by letter where all of it is
ASCII. -/
def foldChars (chars : List Char) : List Char :=
  if isAscii chars then chars.map Char.toLower else lower chars

theorem lowerFrom_of_isAscii {cased : Bool} {chars : List Char} (h : isAscii chars = true) :
    lowerFrom cased chars = chars.map Char.toLower := by
  induction chars generalizing cased with
  | nil => rfl
  | cons c rest ih =>
    simp only [isAscii_cons, Bool.and_eq_true, decide_eq_true_eq] at h
    have hsigma : c ≠ 'Σ' := by
      rintro rfl
      exact absurd h.1 (by decide)
    simp [lowerFrom, hsigma, lowerChar, h.1, ih h.2]

/-- The short way through ASCII gives what the full mapping gives. -/
theorem foldChars_eq_lower (chars : List Char) : foldChars chars = lower chars := by
  unfold foldChars lower
  split
  · next h => exact (lowerFrom_of_isAscii h).symm
  · rfl

def fold (text : String) : String :=
  String.ofList (foldChars text.toList)

@[simp] theorem toList_fold (text : String) : (fold text).toList = foldChars text.toList := by
  simp [fold]

/-- Equality of ASCII texts up to the case of their letters. -/
def sameAscii : List Char → List Char → Bool
  | [], [] => true
  | a :: as, b :: bs => a.toLower == b.toLower && sameAscii as bs
  | _, _ => false

theorem sameAscii_iff (as bs : List Char) :
    sameAscii as bs = true ↔ as.map Char.toLower = bs.map Char.toLower := by
  induction as generalizing bs with
  | nil => cases bs <;> simp [sameAscii]
  | cons a as ih => cases bs <;> simp [sameAscii, ih]

def sameName (a b : String) : Bool :=
  if isAscii a.toList && isAscii b.toList then sameAscii a.toList b.toList else fold a == fold b

theorem sameName_iff (a b : String) : sameName a b = true ↔ fold a = fold b := by
  unfold sameName
  split
  · next h =>
    rw [Bool.and_eq_true] at h
    rw [sameAscii_iff, ← String.toList_inj, toList_fold, toList_fold]
    simp [foldChars, h.1, h.2]
  · simp

theorem sameName_eq_beq (a b : String) : sameName a b = (fold a == fold b) := by
  rw [Bool.eq_iff_iff, sameName_iff, beq_iff_eq]

@[simp] theorem sameName_refl (a : String) : sameName a a = true :=
  (sameName_iff a a).2 rfl

end EventGate.Text
