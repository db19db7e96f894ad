import EventGate.Json.Basic

/-! # Numbers of JSON values

A number far below the greatest one is next to a finite one, so every number that a JSON text can
hold has a finite binary form. It is natural exactly if it is kept as a whole number of 64 bits.
-/

namespace EventGate

theorem le_roundHalfEven (num den : Nat) : num / den ≤ roundHalfEven num den := by
  unfold roundHalfEven
  dsimp only
  split
  · exact Nat.le_refl _
  · split
    · omega
    · split <;> omega

theorem roundHalfEven_of_dvd {num den : Nat} (hpos : 0 < den) (h : den ∣ num) :
    roundHalfEven num den = num / den := by
  unfold roundHalfEven
  dsimp only
  rw [Nat.mod_eq_zero_of_dvd h, Nat.mul_zero, if_pos hpos]

namespace Magnitude

theorem isSome_ofParts? {significand scale : Nat} (hlt : significand < 2 * leastNormal)
    (hnormal : scale = 0 ∨ leastNormal ≤ significand) (hscale : scale ≤ 2045) :
    (ofParts? significand scale).isSome = true := by
  rw [ofParts?, dif_pos ⟨hlt, hnormal, hscale⟩, Option.isSome_some]

/-- A whole number of units with at most 2097 binary digits has a finite neighbour. -/
theorem isSome_nearest? {num : Nat} (h : num.log2 ≤ 2096) : (nearest? num 1).isSome = true := by
  unfold nearest?
  simp only [Nat.div_one, Nat.one_shiftLeft]
  have hscale : num.log2 - 52 ≤ 2044 := by omega
  have hnormal : num.log2 - 52 = 0 ∨
      leastNormal ≤ roundHalfEven num (2 ^ (num.log2 - 52)) := by
    by_cases hlog : num.log2 ≤ 52
    · left
      omega
    · right
      have hne : num ≠ 0 := by
        rintro rfl
        simp at hlog
      have hpow : 2 ^ 52 * 2 ^ (num.log2 - 52) ≤ num := by
        rw [← Nat.pow_add, show 52 + (num.log2 - 52) = num.log2 by omega]
        exact Nat.log2_self_le hne
      have hdiv : 2 ^ 52 ≤ num / 2 ^ (num.log2 - 52) :=
        (Nat.le_div_iff_mul_le (Nat.two_pow_pos _)).mpr hpow
      exact Nat.le_trans hdiv (le_roundHalfEven _ _)
  split
  next hlt => exact isSome_ofParts? hlt hnormal (by omega)
  next => exact isSome_ofParts? (by decide) (.inr (Nat.le_refl _)) (by omega)

/-- A whole number of units with nothing behind its 53 leading binary digits is a magnitude. -/
theorem units_nearest?_of_dvd {num : Nat} (hlog : num.log2 ≤ 2096)
    (h : 1 <<< (num.log2 - 52) ∣ num) : ∃ m, nearest? num 1 = some m ∧ m.units = num := by
  rw [Nat.one_shiftLeft] at h
  obtain ⟨m, hm⟩ := Option.isSome_iff_exists.mp (isSome_nearest? hlog)
  refine ⟨m, hm, ?_⟩
  have hlt : num / 2 ^ (num.log2 - 52) < 2 * leastNormal := by
    rw [Nat.div_lt_iff_lt_mul (Nat.two_pow_pos _)]
    have hnum : num < 2 ^ (num.log2 + 1) := Nat.lt_log2_self
    have hdigits : 2 ^ (num.log2 + 1) ≤ 2 ^ 53 * 2 ^ (num.log2 - 52) := by
      rw [← Nat.pow_add]
      exact Nat.pow_le_pow_right (by decide) (by omega)
    exact Nat.lt_of_lt_of_le hnum hdigits
  unfold nearest? at hm
  simp only [Nat.div_one, Nat.one_shiftLeft, roundHalfEven_of_dvd (Nat.two_pow_pos _) h] at hm
  rw [if_pos hlt] at hm
  unfold ofParts? at hm
  split at hm
  · cases hm
    rw [units, Nat.shiftLeft_eq, Nat.div_mul_cancel h]
  · cases hm

end Magnitude

namespace Binary64

theorem isFinite_nearest {negative : Bool} {num : Nat} (h : num.log2 ≤ 2096) :
    (nearest negative num 1).isFinite = true := by
  unfold nearest
  obtain ⟨m, hm⟩ := Option.isSome_iff_exists.mp (Magnitude.isSome_nearest? h)
  rw [hm]
  rfl

/-- A one in units. The number of its places is kept apart, as nothing has to compute the power. -/
theorem exists_places_one : ∃ places, places = 1074 ∧ Magnitude.one = 1 <<< places :=
  ⟨1074, rfl, rfl⟩

theorem log2_units_le {n : Nat} (digits : Nat) (h : n < 1 <<< (digits + 1)) :
    (n * Magnitude.one).log2 ≤ digits + 1074 := by
  rw [Nat.one_shiftLeft] at h
  obtain ⟨places, hplaces, hone⟩ := exists_places_one
  by_cases hzero : n * Magnitude.one = 0
  · rw [hzero]
    exact Nat.zero_le _
  · have hlt : n * Magnitude.one < 2 ^ (digits + 1 + places) := by
      rw [hone, Nat.one_shiftLeft, Nat.pow_add]
      exact Nat.mul_lt_mul_of_pos_right h (Nat.two_pow_pos _)
    have hlog := (Nat.log2_lt hzero).mpr hlt
    omega

theorem isFinite_ofInt {n : Int} (h : n.natAbs < UInt64.size) : (ofInt n).isFinite = true :=
  isFinite_nearest (Nat.le_trans (log2_units_le 63 h) (by decide))

theorem isFinite_ofNat {n : Nat} (h : n < UInt64.size) : (ofNat n).isFinite = true :=
  isFinite_nearest (Nat.le_trans (log2_units_le 63 h) (by decide))

theorem nearest_of_eq_some {negative : Bool} {num den : Nat} {m : Magnitude}
    (h : Magnitude.nearest? num den = some m) : nearest negative num den = .finite negative m := by
  unfold nearest
  rw [h]

theorem ofNat_eq_finite {n : Nat} (h : n < 1 <<< 53) :
    ∃ m, ofNat n = .finite false m ∧ m.units = n * Magnitude.one := by
  obtain ⟨places, hplaces, hone⟩ := exists_places_one
  have hlog : (n * Magnitude.one).log2 ≤ 52 + 1074 := log2_units_le 52 h
  have hdvd : 1 <<< ((n * Magnitude.one).log2 - 52) ∣ Magnitude.one := by
    have hpow : 2 ^ ((n * Magnitude.one).log2 - 52) ∣ 2 ^ places :=
      Nat.pow_dvd_pow 2 (by omega)
    rwa [← Nat.one_shiftLeft, ← Nat.one_shiftLeft, ← hone] at hpow
  obtain ⟨m, hm, hunits⟩ :=
    Magnitude.units_nearest?_of_dvd (by omega) (Nat.dvd_trans hdvd (Nat.dvd_mul_left _ n))
  exact ⟨m, nearest_of_eq_some hm, hunits⟩

theorem less_ofNat {a b : Nat} (hab : a < b) (hb : b < 1 <<< 53) :
    (ofNat a).less (ofNat b) = true := by
  obtain ⟨m, hm, hunits⟩ := ofNat_eq_finite (Nat.lt_trans hab hb)
  obtain ⟨n, hn, hother⟩ := ofNat_eq_finite hb
  have hlt : m.units < n.units := by
    rw [hunits, hother]
    exact Nat.mul_lt_mul_of_pos_right hab (by decide)
  rw [hm, hn, less, decide_eq_true_iff]
  exact Int.ofNat_lt.mpr hlt

end Binary64

namespace JsonNumber

/-- A number that a JSON text can hold. -/
def Fits : JsonNumber → Prop
  | whole n => Int64.minValue.toInt ≤ n ∧ n < UInt64.size
  | real x => x.isFinite = true

theorem Fits.isFinite_toBinary {n : JsonNumber} (h : n.Fits) : n.toBinary.isFinite = true := by
  cases n with
  | real x => exact h
  | whole n =>
    obtain ⟨hlow, hhigh⟩ := h
    have hmin : Int64.minValue.toInt = -9223372036854775808 := by decide
    have hsize : UInt64.size = 18446744073709551616 := rfl
    have habs : n.natAbs < UInt64.size := by omega
    exact Binary64.isFinite_ofInt habs

theorem natural?_eq_some_iff {number : JsonNumber} {n : UInt64} :
    number.natural? = some n ↔ number = .whole n.toNat := by
  constructor
  · cases number with
    | real x =>
      intro h
      cases h
    | whole m =>
      intro h
      rw [natural?] at h
      split at h
      next hrange =>
        obtain ⟨hlow, hhigh⟩ := hrange
        obtain ⟨k, rfl⟩ := Int.eq_ofNat_of_zero_le hlow
        have hlt : k < UInt64.size := Int.ofNat_lt.mp hhigh
        cases h
        rw [Int.toNat_natCast, UInt64.toNat_ofNat_of_lt' hlt]
      next => cases h
  · rintro rfl
    exact natural?_ofNat n

end JsonNumber

end EventGate
