import EventGate.Channel.Line

/-! # Texts of one line

The compact form of a JSON value has no line feed: strings spell theirs out, and numbers are made of
digits and signs. So the record of an event takes one line.
-/

namespace EventGate

def IsOneLine (text : String) : Prop :=
  '\n' ∉ text.toList

@[simp] theorem isOneLine_append {a b : String} :
    IsOneLine (a ++ b) ↔ IsOneLine a ∧ IsOneLine b := by
  simp [IsOneLine]

@[simp] theorem isOneLine_ofList {chars : List Char} :
    IsOneLine (String.ofList chars) ↔ '\n' ∉ chars := by
  simp [IsOneLine]

/-! ## Numbers -/

theorem notMem_toDigits {c : Char} (h : c.isDigit = false) (n : Nat) :
    c ∉ Nat.toDigits 10 n := by
  intro hin
  have hdigit := Nat.isDigit_of_mem_toDigits (by decide) (by decide) hin
  rw [h] at hdigit
  exact Bool.false_ne_true hdigit

theorem newline_notMem_toDigits (n : Nat) : '\n' ∉ Nat.toDigits 10 n :=
  notMem_toDigits rfl n

@[simp] theorem isOneLine_repr (n : Nat) : IsOneLine n.repr :=
  isOneLine_ofList.mpr (newline_notMem_toDigits n)

theorem newline_notMem_zeros (count : Nat) : '\n' ∉ zeros count := by
  simp [zeros]

theorem isOneLine_intText (n : Int) : IsOneLine (intText n) := by
  cases n with
  | ofNat n => exact isOneLine_repr n
  | negSucc n => exact isOneLine_append.mpr ⟨by simp [IsOneLine], isOneLine_repr (n + 1)⟩

namespace Decimal

theorem isOneLine_positional {layout : NumberLayout} (hsuffix : IsOneLine layout.wholeSuffix)
    {digits : List Char} (h : '\n' ∉ digits) (exponent : Int) :
    IsOneLine (positional layout digits exponent) := by
  cases exponent with
  | ofNat n => simp [positional, h, hsuffix, newline_notMem_zeros]
  | negSucc n =>
    have htake : '\n' ∉ digits.take (digits.length - (n + 1)) := fun hin =>
      h (List.mem_of_mem_take hin)
    have hdrop : '\n' ∉ digits.drop (digits.length - (n + 1)) := fun hin =>
      h (List.mem_of_mem_drop hin)
    simp only [positional]
    split
    · simp [IsOneLine, htake, hdrop]
    · simp [IsOneLine, h, newline_notMem_zeros]

theorem isOneLine_scientific {digits : List Char} (h : '\n' ∉ digits) (leading : Int) :
    IsOneLine (scientific digits leading) := by
  have hsign : IsOneLine (if leading < 0 then "e-" else "e+") := by
    split <;> simp [IsOneLine]
  refine isOneLine_append.mpr ⟨isOneLine_append.mpr ⟨?_, hsign⟩, isOneLine_repr _⟩
  rw [isOneLine_ofList]
  cases digits with
  | nil => exact h
  | cons d rest =>
    rw [List.mem_cons, not_or] at h
    cases rest with
    | nil => simpa using h.1
    | cons e more => simpa using h

theorem isOneLine_text {layout : NumberLayout} (hsuffix : IsOneLine layout.wholeSuffix)
    (d : Decimal) : IsOneLine (d.text layout) := by
  unfold text
  dsimp only
  split
  · exact isOneLine_positional hsuffix (newline_notMem_toDigits d.digits) _
  · exact isOneLine_scientific (newline_notMem_toDigits d.digits) _

end Decimal

theorem Binary64.isOneLine_text {layout : NumberLayout} (hsuffix : IsOneLine layout.wholeSuffix)
    (x : Binary64) : IsOneLine (x.text layout) := by
  cases x with
  | nan => simp [Binary64.text, IsOneLine]
  | infinite negative => cases negative <;> simp [Binary64.text, IsOneLine]
  | finite negative m =>
    have hsign : IsOneLine (if negative then "-" else "") := by
      cases negative <;> simp [IsOneLine]
    exact isOneLine_append.mpr ⟨hsign, Decimal.isOneLine_text hsuffix _⟩

theorem JsonNumber.isOneLine_text (n : JsonNumber) : IsOneLine n.text := by
  cases n with
  | whole n => exact isOneLine_intText n
  | real x => exact x.isOneLine_text (by simp [IsOneLine, NumberLayout.json])

/-! ## Values -/

namespace Json

theorem hexChar_ne_newline {n : Nat} (h : n < 16) : hexChar n ≠ '\n' := by
  revert n
  decide

theorem newline_notMem_escapedChar (c : Char) : '\n' ∉ escapedChar c := by
  unfold escapedChar
  split
  case h_5 => simp
  case h_8 hne _ _ =>
    split
    · next hlow =>
      have hhigh := hexChar_ne_newline (n := c.toNat / 16) (by omega)
      have hrest := hexChar_ne_newline (n := c.toNat % 16) (by omega)
      simp [hhigh.symm, hrest.symm]
    · simp [Ne.symm hne]
  all_goals simp

theorem isOneLine_writeString (s : String) : IsOneLine (writeString s) := by
  simp [writeString, IsOneLine, newline_notMem_escapedChar]

mutual

theorem isOneLine_write : (value : Json) → IsOneLine (write value)
  | null => by simp [write, IsOneLine]
  | bool true => by simp [write, IsOneLine]
  | bool false => by simp [write, IsOneLine]
  | number n => n.isOneLine_text
  | string s => isOneLine_writeString s
  | array items => by
    rw [write, isOneLine_append, isOneLine_append]
    exact ⟨⟨by simp [IsOneLine], isOneLine_writeItems items⟩, by simp [IsOneLine]⟩
  | object members => by
    rw [write, isOneLine_append, isOneLine_append]
    exact ⟨⟨by simp [IsOneLine], isOneLine_writeMembers members⟩, by simp [IsOneLine]⟩

theorem isOneLine_writeItems : (items : List Json) → IsOneLine (writeItems items)
  | [] => by simp [writeItems, IsOneLine]
  | item :: rest => by
    rw [writeItems, isOneLine_append]
    exact ⟨isOneLine_write item, isOneLine_writeMoreItems rest⟩

theorem isOneLine_writeMoreItems : (items : List Json) → IsOneLine (writeMoreItems items)
  | [] => by simp [writeMoreItems, IsOneLine]
  | item :: rest => by
    rw [writeMoreItems, isOneLine_append, isOneLine_append]
    exact ⟨⟨by simp [IsOneLine], isOneLine_write item⟩, isOneLine_writeMoreItems rest⟩

theorem isOneLine_writeMembers :
    (members : List (String × Json)) → IsOneLine (writeMembers members)
  | [] => by simp [writeMembers, IsOneLine]
  | (key, value) :: rest => by
    rw [writeMembers, isOneLine_append, isOneLine_append, isOneLine_append]
    exact ⟨⟨⟨isOneLine_writeString key, by simp [IsOneLine]⟩, isOneLine_write value⟩,
      isOneLine_writeMoreMembers rest⟩

theorem isOneLine_writeMoreMembers :
    (members : List (String × Json)) → IsOneLine (writeMoreMembers members)
  | [] => by simp [writeMoreMembers, IsOneLine]
  | (key, value) :: rest => by
    rw [writeMoreMembers, isOneLine_append, isOneLine_append, isOneLine_append,
      isOneLine_append]
    exact ⟨⟨⟨⟨by simp [IsOneLine], isOneLine_writeString key⟩, by simp [IsOneLine]⟩,
      isOneLine_write value⟩, isOneLine_writeMoreMembers rest⟩

end

end Json

theorem isOneLine_lineOf (event : Event) (arguments : List RouteArgument) :
    IsOneLine (lineOf event arguments) :=
  (recordOf event arguments).isOneLine_write

end EventGate
