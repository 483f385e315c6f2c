import Mathlib.Tactic.Ring
import SolidityLayout.Number.Binary64

/-!
# Integers beyond the range of floating-point numbers

The floating-point number nearest to an integer is infinite from a threshold on:
half a unit of the last place below the power of two that would need one exponent
more than there is.  The tie at the threshold itself goes up, since the largest
mantissa is odd.
-/

namespace SolidityLayout.Number.Binary64

/-- The floating-point number nearest to an integer. -/
def nearest (n : Int) : Binary64 :=
  ofQuotient (decide (n < 0)) n.natAbs 1

/-! ## Rounded quotients -/

theorem roundQuotient_le (num den : Nat) : roundQuotient num den ≤ num / den + 1 := by
  unfold roundQuotient
  simp only
  split
  · omega
  · split
    · omega
    · split <;> omega

theorem roundQuotient_one (num : Nat) : roundQuotient num 1 = num := by
  simp [roundQuotient, Nat.mod_one]

/-- Below a bound that is even, a quotient is rounded up to the bound from half a
unit below it on. -/
theorem roundQuotient_eq_iff {num half bound : Nat} (hhalf : 0 < half) (heven : bound % 2 = 0)
    (hnum : num < bound * (2 * half)) :
    roundQuotient num (2 * half) = bound ↔ bound * (2 * half) ≤ num + half := by
  have hden : 0 < 2 * half := by omega
  have hlow : num / (2 * half) < bound := (Nat.div_lt_iff_lt_mul hden).mpr hnum
  have hsplit := Nat.div_add_mod num (2 * half)
  have hrest := Nat.mod_lt num hden
  by_cases hnext : num / (2 * half) + 1 = bound
  · have hbound : bound * (2 * half) = 2 * half * (num / (2 * half)) + 2 * half := by
      rw [← hnext]
      ring
    unfold roundQuotient
    simp only
    constructor
    · intro h
      split at h
      · omega
      · omega
    · intro h
      rw [if_neg (by omega)]
      split
      · exact hnext
      · rw [if_neg (by omega)]
        exact hnext
  · have hle := roundQuotient_le num (2 * half)
    have hfar : (num / (2 * half) + 2) * (2 * half) ≤ bound * (2 * half) :=
      Nat.mul_le_mul_right _ (by omega)
    have hexpand : (num / (2 * half) + 2) * (2 * half) =
        2 * half * (num / (2 * half)) + 2 * (2 * half) := by ring
    constructor
    · intro h
      omega
    · intro h
      omega

/-! ## The exponent of an integer -/

theorem log2_lt_of_lt {num bound k : Nat} (hnum : num ≠ 0) (hbound : bound ≤ Nat.pow 2 k)
    (h : num < bound) : num.log2 < k :=
  (Nat.log2_lt hnum).mpr (Nat.lt_of_lt_of_le h hbound)

theorem le_log2_of_le {num bound k : Nat} (hnum : num ≠ 0) (hbound : Nat.pow 2 k ≤ bound)
    (h : bound ≤ num) : k ≤ num.log2 :=
  (Nat.le_log2 hnum).mpr (Nat.le_trans hbound h)

theorem quotientExponent_one {num : Nat} (hnum : num ≠ 0) :
    quotientExponent num 1 = (num.log2 : Int) - 52 := by
  have hlow : Nat.pow 2 num.log2 ≤ num := Nat.log2_self_le hnum
  have hone : Nat.log2 1 = 0 := by decide
  unfold quotientExponent
  simp only [hone, leastExponent]
  by_cases hestimate : (0 : Int) ≤ (num.log2 : Int) - (0 : Nat) - 53
  · have hpow : Nat.pow 2 53 * Nat.pow 2 (((num.log2 : Int) - (0 : Nat) - 53).toNat) ≤ num := by
      refine Nat.le_trans (Nat.le_of_eq ?_) hlow
      exact (Nat.pow_add 2 _ _).symm.trans (congrArg (Nat.pow 2) (by omega))
    have hshort : ¬num / (1 * Nat.pow 2 (((num.log2 : Int) - (0 : Nat) - 53).toNat)) <
        Nat.pow 2 53 := by
      rw [Nat.one_mul, Nat.not_lt]
      exact (Nat.le_div_iff_mul_le (Nat.pow_pos (by decide))).mpr hpow
    simp only [hestimate, if_true, hshort, decide_false]
    simp only [Bool.false_eq_true, if_false]
    omega
  · have hpow : Nat.pow 2 53 ≤
        num * Nat.pow 2 ((-((num.log2 : Int) - (0 : Nat) - 53)).toNat) := by
      refine Nat.le_trans (Nat.le_of_eq ?_) (Nat.mul_le_mul_right _ hlow)
      exact (congrArg (Nat.pow 2) (by omega)).trans (Nat.pow_add 2 _ _)
    have hshort : ¬num * Nat.pow 2 ((-((num.log2 : Int) - (0 : Nat) - 53)).toNat) / 1 <
        Nat.pow 2 53 := by
      rw [Nat.div_one, Nat.not_lt]
      exact hpow
    simp only [hestimate, if_false, hshort, decide_false]
    simp only [Bool.false_eq_true, if_false]
    omega

theorem scaledQuotient_one_le (num : Nat) :
    scaledQuotient num 1 ((num.log2 : Int) - 52) ≤ Nat.pow 2 53 := by
  have hhigh : num < Nat.pow 2 (num.log2 + 1) := Nat.lt_log2_self
  by_cases hexponent : (0 : Int) ≤ (num.log2 : Int) - 52
  · have hpow : num < Nat.pow 2 53 * Nat.pow 2 (((num.log2 : Int) - 52).toNat) := by
      refine Nat.lt_of_lt_of_eq hhigh ?_
      exact (congrArg (Nat.pow 2) (by omega)).trans (Nat.pow_add 2 _ _)
    have hquotient : num / (1 * Nat.pow 2 (((num.log2 : Int) - 52).toNat)) < Nat.pow 2 53 := by
      rw [Nat.one_mul]
      exact (Nat.div_lt_iff_lt_mul (Nat.pow_pos (by decide))).mpr hpow
    rw [scaledQuotient, if_pos hexponent]
    exact Nat.le_trans (roundQuotient_le _ _) hquotient
  · have hpow : num * Nat.pow 2 ((-((num.log2 : Int) - 52)).toNat) < Nat.pow 2 53 := by
      refine Nat.lt_of_lt_of_eq
        (Nat.mul_lt_mul_of_pos_right hhigh (Nat.pow_pos (by decide))) ?_
      exact (Nat.pow_add 2 _ _).symm.trans (congrArg (Nat.pow 2) (by omega))
    rw [scaledQuotient, if_neg hexponent, roundQuotient_one]
    exact Nat.le_of_lt hpow

/-- A mantissa that is rounded up to the next power of two is written with the
next exponent, so that only the exponent can be out of range. -/
theorem ofQuotient_one_eq_infinite_iff {num : Nat} (hnum : num ≠ 0) (negative : Bool) :
    ofQuotient negative num 1 = .infinite negative ↔
      greatestExponent + 52 < num.log2 ∨
        greatestExponent + 52 = num.log2 ∧
          scaledQuotient num 1 greatestExponent = Nat.pow 2 53 := by
  have hmantissa := scaledQuotient_one_le num
  have hpow : Nat.pow 2 52 < Nat.pow 2 53 := by decide
  unfold ofQuotient
  simp only [if_neg hnum, quotientExponent_one hnum]
  by_cases hup : scaledQuotient num 1 ((num.log2 : Int) - 52) = Nat.pow 2 53
  · simp only [if_pos hup]
    by_cases hexponent : (num.log2 : Int) - 52 + 1 ≤ greatestExponent
    · rw [dif_pos ⟨hpow, hexponent⟩]
      constructor
      · intro h
        cases h
      · intro h
        omega
    · rw [dif_neg fun h => hexponent h.2]
      simp only [true_iff]
      by_cases hlast : greatestExponent + 52 = num.log2
      · have heq : (num.log2 : Int) - 52 = greatestExponent := by omega
        rw [heq] at hup
        exact Or.inr ⟨hlast, hup⟩
      · left
        omega
  · simp only [if_neg hup]
    have hless := Nat.lt_of_le_of_ne hmantissa hup
    by_cases hexponent : (num.log2 : Int) - 52 ≤ greatestExponent
    · rw [dif_pos ⟨hless, hexponent⟩]
      constructor
      · intro h
        cases h
      · intro h
        rcases h with hlarge | ⟨hlast, hrounded⟩
        · omega
        · have heq : (num.log2 : Int) - 52 = greatestExponent := by omega
          rw [heq] at hup
          exact (hup hrounded).elim
    · rw [dif_neg fun h => hexponent h.2]
      simp only [true_iff]
      left
      omega

/-- With the greatest exponent an integer is rounded up out of range from half a
unit of the last place on. -/
theorem scaledQuotient_greatestExponent_eq_iff {num : Nat} (hnum : num < Nat.pow 2 1024) :
    scaledQuotient num 1 greatestExponent = Nat.pow 2 53 ↔
      Nat.pow 2 1024 - Nat.pow 2 970 ≤ num := by
  have hunit : 1 * Nat.pow 2 greatestExponent.toNat = 2 * Nat.pow 2 970 := by decide +kernel
  have hbound : Nat.pow 2 53 * (2 * Nat.pow 2 970) = Nat.pow 2 1024 := by decide +kernel
  have hhalf : 0 < Nat.pow 2 970 := by decide +kernel
  have heven : Nat.pow 2 53 % 2 = 0 := by decide
  rw [scaledQuotient, if_pos (by decide), hunit,
    roundQuotient_eq_iff hhalf heven (Nat.lt_of_lt_of_eq hnum hbound.symm), hbound]
  generalize Nat.pow 2 1024 = bound, Nat.pow 2 970 = half
  exact Nat.sub_le_iff_le_add.symm

/-- The integers next to infinity: the threshold is half a unit of the last place
below the first power of two that is out of range. -/
theorem ofQuotient_one_eq_infinite_iff_threshold_le (negative : Bool) (num : Nat) :
    ofQuotient negative num 1 = .infinite negative ↔
      Nat.pow 2 1024 - Nat.pow 2 970 ≤ num := by
  have hpositive : 0 < Nat.pow 2 1024 - Nat.pow 2 970 := by decide +kernel
  have hlast : Nat.pow 2 1023 ≤ Nat.pow 2 1024 - Nat.pow 2 970 := by decide +kernel
  have htop : Nat.pow 2 1024 - Nat.pow 2 970 ≤ Nat.pow 2 1024 := by decide +kernel
  have hself : Nat.pow 2 1024 ≤ Nat.pow 2 1024 := by decide +kernel
  by_cases hnum : num = 0
  · have hzero : ofQuotient negative num 1 ≠ .infinite negative := by
      simp [ofQuotient, zero, hnum]
    constructor
    · intro h
      exact (hzero h).elim
    · intro h
      omega
  · rw [ofQuotient_one_eq_infinite_iff hnum negative]
    by_cases hbelow : num < Nat.pow 2 1024
    · have hlog := log2_lt_of_lt hnum hself hbelow
      rw [scaledQuotient_greatestExponent_eq_iff hbelow, greatestExponent]
      constructor
      · intro h
        rcases h with hlarge | ⟨-, hthreshold⟩
        · omega
        · exact hthreshold
      · intro h
        have hmore := le_log2_of_le hnum hlast h
        exact Or.inr ⟨by omega, h⟩
    · have hlarge := Nat.le_of_not_lt hbelow
      have hlog := le_log2_of_le hnum hself hlarge
      rw [greatestExponent]
      constructor
      · intro _
        exact Nat.le_trans htop hlarge
      · intro _
        exact Or.inl (by omega)

/-- An integer is too large exactly if the floating-point number nearest to it is
infinite. -/
theorem isTooLarge_iff_nearest (n : Int) :
    isTooLarge n = true ↔ nearest n = .infinite (decide (n < 0)) := by
  rw [nearest, ofQuotient_one_eq_infinite_iff_threshold_le, isTooLarge, decide_eq_true_eq]

end SolidityLayout.Number.Binary64
