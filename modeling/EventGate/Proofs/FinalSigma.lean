import EventGate.Text.Fold

/-! # The final sigma

The lower-case form of a part of a text depends on what stands around the part, by the capital
sigmas in it alone: whether one of them ends a word may be settled outside the part. The case of
ASCII letters does not matter to any of this.
-/

namespace EventGate.Text

/-! ## A part of a text -/

/-- Lower case of a part of a text, `after` being what follows the part. -/
def lowerWithin (cased : Bool) (after : List Char) : List Char → List Char
  | [] => []
  | c :: rest =>
    if c = 'Σ' then
      (if cased && !startsCased (rest ++ after) then 'ς' else 'σ') ::
        lowerWithin (casedAfter cased c) after rest
    else
      lowerChar c ++ lowerWithin (casedAfter cased c) after rest

theorem lowerFrom_append (cased : Bool) (text after : List Char) :
    lowerFrom cased (text ++ after) =
      lowerWithin cased after text ++ lowerFrom (text.foldl casedAfter cased) after := by
  induction text generalizing cased with
  | nil => rfl
  | cons c rest ih =>
    rw [List.cons_append, lowerFrom, lowerWithin, ih, List.foldl_cons]
    split <;> simp

theorem lowerWithin_append (cased : Bool) (text more after : List Char) :
    lowerWithin cased after (text ++ more) =
      lowerWithin cased (more ++ after) text ++
        lowerWithin (text.foldl casedAfter cased) after more := by
  induction text generalizing cased with
  | nil => rfl
  | cons c rest ih =>
    rw [List.cons_append, lowerWithin, lowerWithin, ih, List.foldl_cons, List.append_assoc]
    split <;> simp

@[simp] theorem lowerWithin_nil (cased : Bool) (text : List Char) :
    lowerWithin cased [] text = lowerFrom cased text := by
  simpa using (lowerFrom_append cased text []).symm

theorem length_lowerWithin (cased cased' : Bool) (after after' text : List Char) :
    (lowerWithin cased after text).length = (lowerWithin cased' after' text).length := by
  induction text generalizing cased cased' with
  | nil => rfl
  | cons c rest ih =>
    rw [lowerWithin, lowerWithin]
    by_cases hsigma : c = 'Σ'
    · simp [hsigma, ih _ (casedAfter cased' 'Σ')]
    · simp [hsigma, ih _ (casedAfter cased' c)]

/-! ## Where a sigma ends a word -/

def endsCased (chars : List Char) : Bool :=
  chars.foldl casedAfter false

/-- A capital sigma between the two parts is the last letter of a word. -/
def endsWord (before after : List Char) : Bool :=
  endsCased before && !startsCased after

/-- Between `before` and `after` the same capital sigmas of a text end a word as in the text
alone. -/
def KeepsForm (before text after : List Char) : Prop :=
  ∀ x y, text = x ++ 'Σ' :: y → endsWord (before ++ x) (y ++ after) = endsWord x y

theorem KeepsForm.of_notMem {text : List Char} (h : 'Σ' ∉ text) (before after : List Char) :
    KeepsForm before text after := by
  intro x y hsplit
  exact absurd (by simp [hsplit]) h

theorem forall_split_cons {c mark : Char} {rest : List Char} {P : List Char → List Char → Prop} :
    (∀ x y, c :: rest = x ++ mark :: y → P x y) ↔
      (c = mark → P [] rest) ∧ ∀ x y, rest = x ++ mark :: y → P (c :: x) y := by
  constructor
  · intro h
    refine ⟨fun hc => h [] rest (by rw [hc]; rfl), fun x y hsplit => h (c :: x) y ?_⟩
    rw [hsplit, List.cons_append]
  · intro ⟨hfirst, hrest⟩ x y hsplit
    cases x with
    | nil =>
      obtain ⟨hc, rfl⟩ := List.cons.inj hsplit
      exact hfirst hc
    | cons d x =>
      obtain ⟨rfl, htail⟩ := List.cons.inj hsplit
      exact hrest x y htail

/-- Two forms of one text are the same if its sigmas have the same forms. -/
theorem lowerWithin_eq_iff (cased cased' : Bool) (after after' text : List Char) :
    lowerWithin cased after text = lowerWithin cased' after' text ↔
      ∀ x y, text = x ++ 'Σ' :: y →
        (x.foldl casedAfter cased && !startsCased (y ++ after)) =
          (x.foldl casedAfter cased' && !startsCased (y ++ after')) := by
  -- Both forms start alike exactly if a sigma in front has one form; the rest is the shorter text.
  induction text generalizing cased cased' with
  | nil => simp [lowerWithin]
  | cons c rest ih =>
    rw [forall_split_cons, lowerWithin, lowerWithin]
    by_cases hsigma : c = 'Σ'
    · have hform : ∀ final final' : Bool,
          ((if final then 'ς' else 'σ') = if final' then 'ς' else 'σ') ↔ final = final' := by
        decide
      rw [if_pos hsigma, if_pos hsigma, List.cons.injEq, hform, ih]
      simp [hsigma]
    · simp [hsigma, ih]

theorem keepsForm_iff {before text after : List Char} :
    KeepsForm before text after ↔
      lowerWithin (endsCased before) after text = foldChars text := by
  rw [foldChars_eq_lower, lower, ← lowerWithin_nil, lowerWithin_eq_iff]
  simp only [KeepsForm, endsWord, endsCased, List.foldl_append, List.append_nil]

instance (before text after : List Char) : Decidable (KeepsForm before text after) :=
  decidable_of_iff _ keepsForm_iff.symm

/-- The folded form of a text in three parts. -/
theorem foldChars_append (before text after : List Char) :
    foldChars (before ++ text ++ after) =
      lowerWithin false (text ++ after) before ++ lowerWithin (endsCased before) after text ++
        lowerFrom (endsCased (before ++ text)) after := by
  rw [foldChars_eq_lower, lower, lowerFrom_append, lowerWithin_append]
  rfl

/-! ## The case of ASCII letters -/

theorem apply_toLower {α : Type} {f : Char → α}
    (h : ∀ n < 128, f (Char.ofNat n).toLower = f (Char.ofNat n)) (c : Char) :
    f c.toLower = f c := by
  by_cases hlt : c.toNat < 128
  · simpa using h c.toNat hlt
  · have hself : c.toLower = c := by
      unfold Char.toLower
      rw [dif_neg]
      rintro ⟨-, hupper⟩
      have hle : c.toNat ≤ 90 := UInt32.le_iff_toNat_le.mp hupper
      omega
    rw [hself]

theorem lowerChar_toLower (c : Char) : lowerChar c.toLower = lowerChar c :=
  apply_toLower (by decide +kernel) c

/-- The ranges from the place `low` on lie beyond ASCII, so that letters are looked up ahead of
it. -/
theorem CodeRanges.contains_toLower {ranges : CodeRanges} (low : Nat)
    (hbeyond : ∀ range ∈ ranges.drop low, 128 ≤ range.1)
    (hlow : ∀ n < 128, CodeRanges.contains (ranges.take low) (Char.ofNat n).toLower =
      CodeRanges.contains (ranges.take low) (Char.ofNat n)) (c : Char) :
    ranges.contains c.toLower = ranges.contains c := by
  have htake {d : Char} (hd : d.toNat < 128) :
      ranges.contains d = CodeRanges.contains (ranges.take low) d := by
    have hnone : CodeRanges.contains (ranges.drop low) d = false := by
      apply List.any_eq_false.mpr
      intro range hrange
      have := hbeyond range hrange
      simp only [Bool.and_eq_true, decide_eq_true_eq]
      omega
    calc ranges.contains d
      _ = CodeRanges.contains (ranges.take low ++ ranges.drop low) d := by
        rw [List.take_append_drop]
      _ = (CodeRanges.contains (ranges.take low) d ||
          CodeRanges.contains (ranges.drop low) d) := List.any_append
      _ = CodeRanges.contains (ranges.take low) d := by rw [hnone, Bool.or_false]
  have hascii : ∀ n < 128, (Char.ofNat n).toNat < 128 ∧ (Char.ofNat n).toLower.toNat < 128 := by
    decide +kernel
  apply apply_toLower
  intro n hn
  rw [htake (hascii n hn).1, htake (hascii n hn).2, hlow n hn]

theorem isCased_toLower (c : Char) : isCased c.toLower = isCased c :=
  CodeRanges.contains_toLower 2 (by decide +kernel) (by decide +kernel) c

theorem isIgnorable_toLower (c : Char) : isIgnorable c.toLower = isIgnorable c :=
  CodeRanges.contains_toLower 5 (by decide +kernel) (by decide +kernel) c

theorem toLower_eq_sigma_iff (c : Char) : c.toLower = 'Σ' ↔ c = 'Σ' := by
  have h : decide (c.toLower = 'Σ') = decide (c = 'Σ') :=
    apply_toLower (f := fun d => decide (d = 'Σ')) (by decide +kernel) c
  simpa using h

theorem startsCased_map_toLower (chars : List Char) :
    startsCased (chars.map Char.toLower) = startsCased chars := by
  have hignorable : isIgnorable ∘ Char.toLower = isIgnorable := funext isIgnorable_toLower
  rw [startsCased, startsCased, List.dropWhile_map, hignorable]
  cases chars.dropWhile isIgnorable with
  | nil => rfl
  | cons c rest => exact isCased_toLower c

theorem lowerFrom_map_toLower (cased : Bool) (chars : List Char) :
    lowerFrom cased (chars.map Char.toLower) = lowerFrom cased chars := by
  induction chars generalizing cased with
  | nil => rfl
  | cons c rest ih =>
    have hcased : casedAfter cased c.toLower = casedAfter cased c := by
      rw [casedAfter, casedAfter, isIgnorable_toLower, isCased_toLower]
    rw [List.map_cons, lowerFrom, lowerFrom, lowerChar_toLower, hcased, ih,
      startsCased_map_toLower]
    simp only [toLower_eq_sigma_iff]

theorem foldChars_congr {first second : List Char}
    (h : first.map Char.toLower = second.map Char.toLower) :
    foldChars first = foldChars second := by
  rw [foldChars_eq_lower, foldChars_eq_lower, lower, lower, ← lowerFrom_map_toLower, h,
    lowerFrom_map_toLower]

end EventGate.Text
