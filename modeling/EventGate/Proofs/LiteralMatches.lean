import EventGate.Proofs.FinalSigma
import EventGate.Rule.Comparison

/-! # Literal matches

A text that has the wanted one at the beginning, at the end or inside it passes the test for it,
but for the final sigma: it is told from the plain one after folding, and what stands around the
wanted text may have changed one into the other.
-/

namespace EventGate

namespace Text

theorem occursIn_iff {part chars : List Char} :
    occursIn part chars = true ↔ ∃ x y, chars = x ++ part ++ y := by
  induction chars with
  | nil => simp [occursIn]
  | cons c rest ih =>
    rw [occursIn, Bool.or_eq_true, List.isPrefixOf_iff_prefix, ih]
    constructor
    · rintro (⟨y, hbegins⟩ | ⟨x, y, hinside⟩)
      · exact ⟨[], y, hbegins.symm⟩
      · exact ⟨c :: x, y, by rw [hinside]; rfl⟩
    · rintro ⟨x, y, hsplit⟩
      cases x with
      | nil => exact .inl ⟨y, hsplit.symm⟩
      | cons d x => exact .inr ⟨x, y, (List.cons.inj hsplit).2⟩

/-- What has the length of a prefix is it. -/
theorem prefix_append_iff {part form rest : List Char} (hlength : part.length = form.length) :
    part <+: form ++ rest ↔ form = part := by
  constructor
  · rintro ⟨more, hmore⟩
    exact (List.append_inj hmore hlength).1.symm
  · rintro rfl
    exact List.prefix_append _ _

theorem suffix_append_iff {part form front : List Char} (hlength : part.length = form.length) :
    part <:+ front ++ form ↔ form = part := by
  constructor
  · rintro ⟨more, hmore⟩
    exact (List.append_inj' hmore hlength).2.symm
  · rintro rfl
    exact List.suffix_append _ _

theorem length_foldChars (cased : Bool) (after text : List Char) :
    (foldChars text).length = (lowerWithin cased after text).length := by
  rw [foldChars_eq_lower, lower, ← lowerWithin_nil]
  exact length_lowerWithin ..

end Text

namespace Comparison

open Text

/-- The folded text occurs in the folded value of `a`, `text` and `b` elsewhere than at the place of
`text`. -/
def OccursElsewhere (a text b : List Char) : Prop :=
  ∃ x y, foldChars (a ++ text ++ b) = x ++ foldChars text ++ y ∧ x.length ≠ (foldChars a).length

theorem isPrefixOf_foldChars_iff (text after : List Char) :
    (foldChars text).isPrefixOf (foldChars (text ++ after)) = true ↔ KeepsForm [] text after := by
  have hfold := foldChars_append [] text after
  rw [List.nil_append, lowerWithin, List.nil_append] at hfold
  rw [List.isPrefixOf_iff_prefix, hfold, prefix_append_iff (length_foldChars ..), keepsForm_iff]

theorem isSuffixOf_foldChars_iff (before text : List Char) :
    (foldChars text).isSuffixOf (foldChars (before ++ text)) = true ↔
      KeepsForm before text [] := by
  have hfold := foldChars_append before text []
  rw [List.append_nil, lowerFrom_nil, List.append_nil] at hfold
  rw [List.isSuffixOf_iff_suffix, hfold, suffix_append_iff (length_foldChars ..), keepsForm_iff]

theorem occursIn_foldChars_iff (before text after : List Char) :
    occursIn (foldChars text) (foldChars (before ++ text ++ after)) = true ↔
      KeepsForm before text after ∨ OccursElsewhere before text after := by
  have hfold := foldChars_append before text after
  have hbefore := length_foldChars false (text ++ after) before
  have htext := length_foldChars (endsCased before) after text
  rw [occursIn_iff, keepsForm_iff]
  constructor
  · rintro ⟨x, y, hsplit⟩
    by_cases hplace : x.length = (foldChars before).length
    · rw [hfold] at hsplit
      have hfront := (List.append_inj hsplit (by simp; omega)).1
      exact .inl (List.append_inj hfront (by omega)).2
    · exact .inr ⟨x, y, hsplit, hplace⟩
  · rintro (hform | ⟨x, y, hsplit, -⟩)
    · exact ⟨_, _, hform ▸ hfold⟩
    · exact ⟨x, y, hsplit⟩

variable {wanted text : String}

/-- Texts are accepted where they literally match, but for the final sigma. A text begins or
ends a value exactly if its capital sigmas keep their forms there, and is contained in it if they do
or if it stands elsewhere too. Without a capital sigma it always is, and a value equals itself. -/
theorem accepts_literally_iff
    (hcase : wanted.toList.map Char.toLower = text.toList.map Char.toLower) (a b : String) :
    ((startsWith wanted).accepts (some (.text (text ++ b))) = true ↔
        KeepsForm [] text.toList b.toList) ∧
      ((endsWith wanted).accepts (some (.text (a ++ text))) = true ↔
        KeepsForm a.toList text.toList []) ∧
      ((contains wanted).accepts (some (.text (a ++ text ++ b))) = true ↔
        KeepsForm a.toList text.toList b.toList ∨
          OccursElsewhere a.toList text.toList b.toList) ∧
      (equals wanted).accepts (some (.text text)) = true ∧
      ('Σ' ∉ text.toList →
        (startsWith wanted).accepts (some (.text (text ++ b))) = true ∧
          (endsWith wanted).accepts (some (.text (a ++ text))) = true ∧
          (contains wanted).accepts (some (.text (a ++ text ++ b))) = true) := by
  have hwanted : foldChars wanted.toList = foldChars text.toList := foldChars_congr hcase
  have hstarts : (startsWith wanted).accepts (some (.text (text ++ b))) = true ↔
      KeepsForm [] text.toList b.toList := by
    rw [← isPrefixOf_foldChars_iff, ← hwanted, ← String.toList_append]
    rfl
  have hends : (endsWith wanted).accepts (some (.text (a ++ text))) = true ↔
      KeepsForm a.toList text.toList [] := by
    rw [← isSuffixOf_foldChars_iff, ← hwanted, ← String.toList_append]
    rfl
  have hcontains : (contains wanted).accepts (some (.text (a ++ text ++ b))) = true ↔
      KeepsForm a.toList text.toList b.toList ∨
        OccursElsewhere a.toList text.toList b.toList := by
    rw [← occursIn_foldChars_iff, ← hwanted, ← String.toList_append, ← String.toList_append]
    rfl
  refine ⟨hstarts, hends, hcontains, ?_, fun hsigma => ?_⟩
  · have hfold : fold text = fold wanted := by rw [fold, fold, hwanted]
    exact (sameName_iff text wanted).mpr hfold
  · have hkeeps := KeepsForm.of_notMem hsigma
    exact ⟨hstarts.mpr (hkeeps _ _), hends.mpr (hkeeps _ _), hcontains.mpr (.inl (hkeeps _ _))⟩

theorem street_is_accepted :
    "ΟΔΟΣ NR".toList.map Char.toLower = "ΟΔΟΣ nr".toList.map Char.toLower ∧
      (startsWith "ΟΔΟΣ NR").accepts (some (.text "ΟΔΟΣ nr 5")) = true ∧
      (endsWith "ΟΔΟΣ NR").accepts (some (.text "η ΟΔΟΣ nr")) = true ∧
      (contains "ΟΔΟΣ NR").accepts (some (.text "η ΟΔΟΣ nr 5")) = true ∧
      (equals "ΟΔΟΣ NR").accepts (some (.text "ΟΔΟΣ nr")) = true := by
  have hcase : "ΟΔΟΣ NR".toList.map Char.toLower = "ΟΔΟΣ nr".toList.map Char.toLower := by decide
  obtain ⟨hstarts, hends, hcontains, hequals, -⟩ := accepts_literally_iff hcase "η " " 5"
  refine ⟨hcase, hstarts.mpr ?_, hends.mpr ?_, hcontains.mpr (.inl ?_), hequals⟩
  all_goals decide +kernel

/-- The sigma of the wanted text ends a word, and in the value it does not. -/
theorem beginning_is_not_accepted :
    (startsWith "ΑΣ").accepts (some (.text ("ΑΣ" ++ "Α"))) = false ∧
      (endsWith "Σ").accepts (some (.text ("Α" ++ "Σ"))) = false ∧
      (contains "ΑΣ").accepts (some (.text ("" ++ "ΑΣ" ++ "Α"))) = false := by
  decide +kernel

end Comparison

end EventGate
