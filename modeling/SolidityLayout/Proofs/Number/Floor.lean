import Mathlib.Algebra.Order.Field.Power
import Mathlib.Data.Rat.Floor
import SolidityLayout.Number.Binary64

/-!
# Exact values and floors of floating-point numbers

A finite double-precision number is a rational number.  Its floor is computed
from a numerator and a denominator, and is the floor of that rational number
without any rounding on the way.
-/

namespace SolidityLayout.Number.Binary64

/-- The rational number that a finite floating-point number is. -/
def value? : Binary64 → Option ℚ
  | .finite negative mantissa exponent _ =>
    some ((if negative then -1 else 1) * mantissa * (2 : ℚ) ^ exponent)
  | _ => none

theorem natCast_two_pow (k : Nat) : ((Nat.pow 2 k : Nat) : ℚ) = 2 ^ k :=
  Nat.cast_pow 2 k

/-- A magnitude is the quotient of its numerator and its denominator. -/
theorem quotient_div_eq (mantissa : Nat) (exponent : Int) :
    ((quotient mantissa exponent).1 : ℚ) / (quotient mantissa exponent).2 =
      mantissa * (2 : ℚ) ^ exponent := by
  by_cases hexponent : 0 ≤ exponent
  · obtain ⟨k, rfl⟩ := Int.eq_ofNat_of_zero_le hexponent
    rw [quotient, if_pos hexponent, Nat.cast_one, div_one, Int.toNat_natCast, Nat.cast_mul,
      natCast_two_pow, zpow_natCast]
  · obtain ⟨k, hk⟩ : ∃ k : Nat, exponent = -k := ⟨(-exponent).toNat, by omega⟩
    rw [quotient, if_neg hexponent, hk, Int.neg_neg, Int.toNat_natCast, natCast_two_pow,
      zpow_neg, zpow_natCast, div_eq_mul_inv]

/-- The floor of a floating-point number is the floor of its exact value. -/
theorem floor?_eq_map_value? (x : Binary64) : x.floor? = x.value?.map Int.floor := by
  cases x with
  | finite negative mantissa exponent inRange =>
      let num := (quotient mantissa exponent).1
      let den := (quotient mantissa exponent).2
      let signed : Int := if negative then -(num : Int) else num
      have hvalue : (if negative then -1 else 1) * mantissa * (2 : ℚ) ^ exponent =
          (signed : ℚ) / den := by
        rw [mul_assoc, ← quotient_div_eq]
        by_cases hnegative : negative = true
        · simp [signed, num, den, hnegative, neg_div]
        · simp [signed, num, den, hnegative]
      have hfloor : signed.fdiv den = ⌊(signed : ℚ) / den⌋ := by
        rw [Int.fdiv_eq_ediv_of_nonneg _ (Int.natCast_nonneg _), Rat.floor_intCast_div_natCast]
      rw [value?, hvalue, Option.map_some, ← hfloor]
      rfl
  | infinite negative => rfl
  | nan => rfl

end SolidityLayout.Number.Binary64
