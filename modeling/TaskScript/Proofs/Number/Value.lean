/-
The values of double-precision numbers.  A number is taken to be in the unit interval by its
bits, and this says the same of its value.
-/
import Mathlib.Algebra.Order.Field.Basic
import Mathlib.Algebra.Order.Field.Rat
import TaskScript.Number.Binary64

namespace TaskScript

theorem twoTo_add (m n : Nat) : twoTo (m + n) = twoTo m * twoTo n := Nat.pow_add 2 m n

theorem twoTo_le_twoTo {m n : Nat} (h : m ≤ n) : twoTo m ≤ twoTo n :=
  Nat.pow_le_pow_right Nat.two_pos h

namespace Binary64

/-- The value of a finite number; what is infinite or no number has one beyond the unit. -/
def value (x : Binary64) : ℚ :=
  (if x.isNegative then -1 else 1) * (x.scaled / twoTo 1074)

theorem scaled_of_lt {x : Binary64} (h : x.magnitude < twoTo 52) : x.scaled = x.magnitude := by
  have hexponent : x.exponent = 0 := by
    rw [exponent, Nat.div_eq_of_lt h]
  rw [scaled, hexponent, significand]
  simp only [if_pos h, Nat.mod_eq_of_lt h]
  exact Nat.mul_one _

theorem twoTo_le_significand {x : Binary64} (h : twoTo 52 ≤ x.magnitude) :
    twoTo 52 ≤ x.significand := by
  simp only [significand, if_neg (Nat.not_lt.mpr h)]
  exact Nat.le_add_left _ _

theorem significand_lt (x : Binary64) : x.significand < twoTo 53 := by
  have hfraction : x.magnitude % twoTo 52 < twoTo 52 := Nat.mod_lt _ (twoTo_pos 52)
  have hdouble : twoTo 53 = twoTo 52 + twoTo 52 := by rw [twoTo_succ]; omega
  simp only [significand]
  split <;> omega

theorem scaled_eq_zero_iff {x : Binary64} : x.scaled = 0 ↔ x.magnitude = 0 := by
  by_cases h : x.magnitude < twoTo 52
  · rw [scaled_of_lt h]
  · have hlarge := Nat.not_lt.mp h
    have hsignificand : 0 < x.significand :=
      Nat.lt_of_lt_of_le (twoTo_pos 52) (twoTo_le_significand hlarge)
    have hscaled : 0 < x.scaled := Nat.mul_pos hsignificand (twoTo_pos _)
    have := twoTo_pos 52
    omega

/-- One has the bits of the exponent 1023 and no others. -/
theorem scaled_lt_iff {x : Binary64} :
    x.scaled < twoTo 1074 ↔ x.magnitude < 0x3FF0000000000000 := by
  have hone : 0x3FF0000000000000 = 1023 * twoTo 52 := by decide +kernel
  by_cases h : x.magnitude < twoTo 52
  · rw [scaled_of_lt h, hone]
    have := @twoTo_le_twoTo 52 1074 (by omega)
    omega
  · have hlarge := Nat.not_lt.mp h
    have hplaces : 1 ≤ x.magnitude / twoTo 52 :=
      (Nat.one_le_div_iff (twoTo_pos 52)).mpr hlarge
    rw [hone, ← Nat.div_lt_iff_lt_mul (twoTo_pos 52)]
    constructor
    · intro hlt
      by_contra hnot
      have hexponent : 1022 ≤ x.exponent := by
        rw [exponent]
        omega
      have : twoTo 1074 ≤ x.scaled := by
        calc twoTo 1074 = twoTo 52 * twoTo 1022 := twoTo_add 52 1022
          _ ≤ x.significand * twoTo x.exponent :=
              Nat.mul_le_mul (twoTo_le_significand hlarge) (twoTo_le_twoTo hexponent)
      omega
    · intro hlt
      have hexponent : x.exponent ≤ 1021 := by
        rw [exponent]
        omega
      calc x.scaled < twoTo 53 * twoTo x.exponent :=
            Nat.mul_lt_mul_of_pos_right x.significand_lt (twoTo_pos _)
        _ ≤ twoTo 53 * twoTo 1021 := Nat.mul_le_mul_left _ (twoTo_le_twoTo hexponent)
        _ = twoTo 1074 := (twoTo_add 53 1021).symm

theorem inUnitInterval_iff {x : Binary64} :
    x.inUnitInterval = true ↔ 0 ≤ x.value ∧ x.value < 1 := by
  have hpos : (0 : ℚ) < twoTo 1074 := Nat.cast_pos.mpr (twoTo_pos 1074)
  have hlt : (x.scaled / twoTo 1074 : ℚ) < 1 ↔ x.magnitude < 0x3FF0000000000000 := by
    rw [div_lt_one hpos, Nat.cast_lt, scaled_lt_iff]
  have hzero : (x.scaled / twoTo 1074 : ℚ) = 0 ↔ x.magnitude = 0 := by
    rw [div_eq_zero_iff, or_iff_left hpos.ne', Nat.cast_eq_zero, scaled_eq_zero_iff]
  have hnonneg : (0 : ℚ) ≤ x.scaled / twoTo 1074 :=
    div_nonneg (Nat.cast_nonneg _) hpos.le
  unfold inUnitInterval value isZero
  generalize (x.scaled / twoTo 1074 : ℚ) = size at *
  by_cases hmagnitude : x.magnitude = 0
  · have hsize : size = 0 := hzero.mpr hmagnitude
    simp [hmagnitude, hsize]
  · have hsize : 0 < size := lt_of_le_of_ne hnonneg fun h => hmagnitude (hzero.mp h.symm)
    cases x.isNegative with
    | false => simp [hmagnitude, hlt, hnonneg]
    | true => simp [hmagnitude, hsize]

end Binary64

end TaskScript
