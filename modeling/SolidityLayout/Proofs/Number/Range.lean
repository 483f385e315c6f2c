import SolidityLayout.Number.Binary64
import SolidityLayout.Proofs.Number.Numeral

/-!
# The range of floating-point numbers

Every integer in the range of finite double-precision numbers has far fewer
digits than the digit limit, so that the ids read from a list of numbers can
always be shown.
-/

namespace SolidityLayout.Number

/-- The least positive integer beyond the digit limit. -/
def leastLong : Int :=
  Int.ofNat (Nat.pow 10 digitLimit)

theorem isShowable_leastLong : isShowable leastLong = false := by
  decide +kernel

theorem isShowable_of_natAbs_lt {n : Int} (hn : n.natAbs < Nat.pow 2 1024) :
    isShowable n = true := by
  have hpow : Nat.pow 2 1024 ≤ Nat.pow 10 digitLimit := by decide +kernel
  exact decide_eq_true (Nat.lt_of_lt_of_le hn hpow)

namespace Binary64

/-- The whole part of a finite magnitude is below `2 ^ 1024`. -/
theorem quotient_lt {mantissa : Nat} {exponent : Int}
    (h : IsInRange mantissa exponent) :
    (quotient mantissa exponent).1 < Nat.pow 2 1024 := by
  obtain ⟨hmantissa, hexponent⟩ := h
  rw [quotient]
  split
  · have hpow : Nat.pow 2 exponent.toNat ≤ Nat.pow 2 971 := by
      apply Nat.pow_le_pow_right (by decide)
      rw [greatestExponent] at hexponent
      omega
    have hpos : 0 < Nat.pow 2 971 := by decide +kernel
    have hproduct : Nat.pow 2 53 * Nat.pow 2 971 = Nat.pow 2 1024 := by
      decide +kernel
    exact Nat.lt_of_lt_of_eq
      (Nat.mul_lt_mul_of_lt_of_le hmantissa hpow hpos) hproduct
  · have hpow : Nat.pow 2 53 ≤ Nat.pow 2 1024 := by decide +kernel
    exact Nat.lt_of_lt_of_le hmantissa hpow

/-- The floor of a number can be shown. -/
theorem isShowable_of_floor?_eq_some {x : Binary64} {n : Int}
    (h : x.floor? = some n) : isShowable n = true := by
  cases x with
  | finite negative mantissa exponent inRange =>
      have hlt := quotient_lt inRange
      simp only [floor?, Option.some.injEq] at h
      apply isShowable_of_natAbs_lt
      rw [← h, Int.fdiv_eq_ediv_of_nonneg _ (Int.natCast_nonneg _)]
      refine Nat.lt_of_le_of_lt (Int.natAbs_ediv_le_natAbs _ _) ?_
      cases negative
      · exact hlt
      · rw [if_pos rfl, Int.natAbs_neg]
        exact hlt
  | _ => cases h

theorem isTooLarge_of_natAbs_lt {n : Int} (hn : n.natAbs < Nat.pow 2 1023) :
    isTooLarge n = false := by
  have hpow : Nat.pow 2 1023 ≤ Nat.pow 2 1024 - Nat.pow 2 970 := by decide +kernel
  exact decide_eq_false (Nat.not_le_of_lt (Nat.lt_of_lt_of_le hn hpow))

theorem isShowable_of_not_isTooLarge {n : Int} (h : isTooLarge n = false) :
    isShowable n = true := by
  rw [isTooLarge, decide_eq_false_iff_not, Nat.not_le] at h
  have hle : Nat.pow 2 1024 - Nat.pow 2 970 ≤ Nat.pow 2 1024 := by decide +kernel
  exact isShowable_of_natAbs_lt (Nat.lt_of_lt_of_le h hle)

end Binary64

end SolidityLayout.Number
