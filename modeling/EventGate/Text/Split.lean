/-! # Cutting a text at a mark

The parts between marks, and the two parts around the first mark.
-/

namespace EventGate.Text

/-- The parts of a text between its marks; a text without a mark is its only part. -/
def splitChars (mark : Char) : List Char → List (List Char)
  | [] => [[]]
  | c :: rest =>
    if c = mark then [] :: splitChars mark rest
    else
      match splitChars mark rest with
      | [] => [[c]]
      | part :: parts => (c :: part) :: parts

theorem splitChars_ne_nil (mark : Char) (chars : List Char) : splitChars mark chars ≠ [] := by
  cases chars with
  | nil => simp [splitChars]
  | cons c rest =>
    unfold splitChars
    split
    · simp
    · split <;> simp

/-- Each character of a text is a mark or in one of the parts. -/
theorem eq_or_mem_splitChars (mark : Char) {c : Char} {chars : List Char} (h : c ∈ chars) :
    c = mark ∨ ∃ part ∈ splitChars mark chars, c ∈ part := by
  induction chars with
  | nil => exact absurd h List.not_mem_nil
  | cons first rest ih =>
    unfold splitChars
    by_cases hmark : first = mark
    · rw [if_pos hmark]
      rcases List.mem_cons.mp h with rfl | hrest
      · exact .inl hmark
      · exact (ih hrest).imp_right fun ⟨part, hpart, hc⟩ =>
          ⟨part, List.mem_cons_of_mem _ hpart, hc⟩
    · rw [if_neg hmark]
      cases hparts : splitChars mark rest with
      | nil => exact absurd hparts (splitChars_ne_nil mark rest)
      | cons part parts =>
        rcases List.mem_cons.mp h with rfl | hrest
        · exact .inr ⟨c :: part, List.mem_cons_self, List.mem_cons_self⟩
        · rw [hparts] at ih
          refine (ih hrest).imp_right ?_
          rintro ⟨own, hown, hc⟩
          rcases List.mem_cons.mp hown with rfl | hown
          · exact ⟨first :: own, List.mem_cons_self, List.mem_cons_of_mem _ hc⟩
          · exact ⟨own, List.mem_cons_of_mem _ hown, hc⟩

def splitOnce? (mark : Char) (chars : List Char) : Option (List Char × List Char) :=
  match chars.dropWhile (· != mark) with
  | [] => none
  | _ :: after => some (chars.takeWhile (· != mark), after)

def occursIn (part : List Char) : List Char → Bool
  | [] => part.isEmpty
  | c :: rest => part.isPrefixOf (c :: rest) || occursIn part rest

end EventGate.Text
