import EventGate.Event.Naming
import EventGate.Proofs.FinalSigma

/-! # Names of the framework

A name belongs to the framework by its beginning. What hashing adds to the end of a name makes it
such a name in four cases only: the name is the beginning itself, without its point.
-/

namespace EventGate

namespace Text

/-! ## Folding a text in parts -/

/-- A character, with the final sigma taken for the plain one. -/
def plainSigma (c : Char) : Char :=
  if c = 'ς' then 'σ' else c

/-- What stands around a text does not change its folded form, but for the forms of sigma. -/
theorem map_plainSigma_lowerWithin (cased : Bool) (after text : List Char) :
    (lowerWithin cased after text).map plainSigma = (lowerFrom cased text).map plainSigma := by
  induction text generalizing cased with
  | nil => rfl
  | cons c rest ih =>
    rw [lowerWithin, lowerFrom]
    by_cases hsigma : c = 'Σ'
    · have hform (final : Bool) : plainSigma (if final then 'ς' else 'σ') = 'σ' := by
        cases final <;> decide
      rw [if_pos hsigma, if_pos hsigma, List.map_cons, List.map_cons, ih, hform, hform]
    · rw [if_neg hsigma, if_neg hsigma, List.map_append, List.map_append, ih]

theorem eq_of_plainSigma_eq {c d : Char} (h : plainSigma c = plainSigma d) (hplain : c ≠ 'σ')
    (hfinal : c ≠ 'ς') : c = d := by
  unfold plainSigma at h
  rw [if_neg hfinal] at h
  split at h
  · exact absurd h hplain
  · exact h

/-- A text without sigma begins both of two texts that differ in the forms of sigma only, or
neither. -/
theorem prefix_of_map_plainSigma {start a b : List Char}
    (hstart : ∀ c ∈ start, c ≠ 'σ' ∧ c ≠ 'ς') (h : a.map plainSigma = b.map plainSigma)
    (ha : start <+: a) : start <+: b := by
  induction start generalizing a b with
  | nil => exact List.nil_prefix
  | cons c rest ih =>
    cases a with
    | nil => exact absurd ha (by simp)
    | cons d a =>
      obtain ⟨rfl, htail⟩ := List.cons_prefix_cons.mp ha
      cases b with
      | nil => exact absurd h (by simp)
      | cons e b =>
        rw [List.map_cons, List.map_cons, List.cons.injEq] at h
        obtain ⟨hc, hrest⟩ := List.forall_mem_cons.mp hstart
        rw [← eq_of_plainSigma_eq h.1 hc.1 hc.2]
        exact List.cons_prefix_cons.mpr ⟨rfl, ih hrest h.2 htail⟩

theorem eq_of_map_plainSigma {text a b : List Char} (htext : ∀ c ∈ text, c ≠ 'σ' ∧ c ≠ 'ς')
    (h : a.map plainSigma = b.map plainSigma) (ha : a = text) : b = text := by
  have hlength : a.length = b.length := by simpa using congrArg List.length h
  have hbegins : text <+: b := prefix_of_map_plainSigma htext h (ha ▸ List.prefix_rfl)
  exact (hbegins.eq_of_length (by rw [← hlength, ha])).symm

end Text

namespace Naming

open Text

/-- The beginnings of the framework's names, folded and without the point. -/
def groups : List String :=
  ["reserved", "context", "datamodel", "correlation"]

def isGroup (name : String) : Bool :=
  groups.contains (fold name)

theorem isLower_of_mem_groups {group : String} (h : group ∈ groups) {c : Char}
    (hc : c ∈ group.toList) : c.isLower = true := by
  have hall : ∀ group ∈ groups, group.toList.all Char.isLower = true := by decide
  exact List.all_eq_true.mp (hall group h) c hc

theorem point_notMem_group {group : String} (h : group ∈ groups) : '.' ∉ group.toList :=
  fun hc => absurd (isLower_of_mem_groups h hc) (by decide)

theorem sigma_notMem_group {group : String} (h : group ∈ groups) :
    ∀ c ∈ group.toList ++ ['.'], c ≠ 'σ' ∧ c ≠ 'ς' := by
  intro c hc
  rcases List.mem_append.mp hc with hc | hc
  · have hlower : c.isLower = true := isLower_of_mem_groups h hc
    constructor <;>
    · rintro rfl
      exact absurd hlower (by decide)
  · rw [List.mem_singleton.mp hc]
    decide

theorem isReserved_iff {name : String} :
    isReserved name = true ↔
      ∃ group ∈ groups, group.toList ++ ['.'] <+: foldChars name.toList := by
  have hstarts : reservedPrefixes.map (fun start => foldChars start.toList) =
      groups.map fun group => group.toList ++ ['.'] := by
    decide
  have hany : isReserved name =
      (reservedPrefixes.map fun start => foldChars start.toList).any fun start =>
        start.isPrefixOf (foldChars name.toList) := by
    rw [List.any_map]
    rfl
  rw [hany, hstarts, List.any_map, List.any_eq_true]
  simp only [Function.comp_apply, List.isPrefixOf_iff_prefix]

/-- A word with a point behind it begins a text with a point in it if it begins the part before that
point, or is that part. -/
theorem prefix_append_point {word front back : List Char} (hword : '.' ∉ word) :
    word ++ ['.'] <+: front ++ '.' :: back ↔ word ++ ['.'] <+: front ∨ front = word := by
  induction word generalizing front with
  | nil =>
    cases front with
    | nil => simp
    | cons c front => simp
  | cons c word ih =>
    rw [List.mem_cons, not_or] at hword
    cases front with
    | nil => simp [Ne.symm hword.1]
    | cons d front =>
      rw [List.cons_append, List.cons_append, List.cons_prefix_cons, List.cons_prefix_cons,
        ih hword.2, List.cons.injEq, eq_comm (a := d), and_or_left]

theorem foldChars_rawName (name : String) :
    ∃ front, foldChars (rawName name).toList = front ++ ".nothashed".toList ∧
      front.map plainSigma = (foldChars name.toList).map plainSigma := by
  refine ⟨lowerWithin false rawSuffix.toList name.toList, ?_, ?_⟩
  · rw [foldChars_eq_lower, rawName, String.toList_append, lower, lowerFrom_append,
      lowerFrom_of_isAscii (by decide)]
    rfl
  · rw [foldChars_eq_lower, lower, map_plainSigma_lowerWithin]

/-- The name of a raw text is longer than that of its property, so it is another one. -/
theorem sameName_rawName (name : String) : sameName name (rawName name) = false := by
  obtain ⟨front, hfold, hplain⟩ := foldChars_rawName name
  have hlength : front.length = (foldChars name.toList).length := by
    simpa using congrArg List.length hplain
  rw [← Bool.not_eq_true, sameName_iff, ← String.toList_inj, toList_fold, toList_fold, hfold]
  intro heq
  have := congrArg List.length heq
  rw [List.length_append, hlength] at this
  exact absurd this (by simp)

/-- The name of a raw text is one of the framework if the name of the property is, or if it is a
beginning of the framework's names without its point. -/
theorem isReserved_rawName {name : String} :
    isReserved (rawName name) = true ↔ isReserved name = true ∨ isGroup name = true := by
  obtain ⟨front, heq, hplain⟩ := foldChars_rawName name
  have hgroup : ∀ group ∈ groups,
      (group.toList ++ ['.'] <+: foldChars (rawName name).toList ↔
        group.toList ++ ['.'] <+: foldChars name.toList ∨ fold name = group) := by
    intro group hmem
    have hsigma : ∀ c ∈ group.toList ++ ['.'], c ≠ 'σ' ∧ c ≠ 'ς' := sigma_notMem_group hmem
    have hword : ∀ c ∈ group.toList, c ≠ 'σ' ∧ c ≠ 'ς' :=
      fun c hc => hsigma c (List.mem_append_left _ hc)
    rw [heq]
    refine (prefix_append_point (point_notMem_group hmem)).trans (or_congr ?_ ?_)
    · exact ⟨prefix_of_map_plainSigma hsigma hplain, prefix_of_map_plainSigma hsigma hplain.symm⟩
    · rw [← String.toList_inj, toList_fold]
      exact ⟨eq_of_map_plainSigma hword hplain, eq_of_map_plainSigma hword hplain.symm⟩
  rw [isReserved_iff, isReserved_iff, isGroup, List.contains_iff_mem]
  constructor
  · rintro ⟨group, hmem, h⟩
    rcases (hgroup group hmem).mp h with h | rfl
    · exact .inl ⟨group, hmem, h⟩
    · exact .inr hmem
  · rintro (⟨group, hmem, h⟩ | hmem)
    · exact ⟨group, hmem, (hgroup group hmem).mpr (.inl h)⟩
    · exact ⟨fold name, hmem, (hgroup _ hmem).mpr (.inr rfl)⟩

end Naming

end EventGate
