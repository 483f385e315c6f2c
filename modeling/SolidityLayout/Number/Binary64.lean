/-!
# Binary floating-point numbers

Double-precision numbers as exact values: a finite number is a sign, a natural mantissa and a
power of two.  A decimal number is rounded to the nearest of them, a tie going to the even
mantissa, and the floor of a finite number is exact.
-/

namespace SolidityLayout.Number

/-- The exponent of the largest finite double-precision numbers. -/
def greatestExponent : Int := 971

/-- Whether a mantissa and an exponent are those of a finite double-precision number. -/
def IsInRange (mantissa : Nat) (exponent : Int) : Prop :=
  mantissa < Nat.pow 2 53 ∧ exponent ≤ greatestExponent

instance (mantissa : Nat) (exponent : Int) : Decidable (IsInRange mantissa exponent) :=
  inferInstanceAs (Decidable (_ ∧ _))

/-- A double-precision number; the finite one has the value `± mantissa * 2 ^ exponent`. -/
inductive Binary64
  | finite (negative : Bool) (mantissa : Nat) (exponent : Int)
      (inRange : IsInRange mantissa exponent)
  | infinite (negative : Bool)
  | nan
  deriving DecidableEq, Repr

namespace Binary64

/-- The exponent of the numbers next to zero. -/
def leastExponent : Int := -1074

/-- Zero with a sign. -/
def zero (negative : Bool) : Binary64 :=
  .finite negative 0 leastExponent (by decide)

/-- A quotient of natural numbers rounded to the nearest one, a tie going to the even one. -/
def roundQuotient (num den : Nat) : Nat :=
  let low := num / den
  let rest := 2 * (num % den)
  if rest < den then low
  else if den < rest then low + 1
  else if low % 2 = 0 then low else low + 1

/-- The quotient `num / den` in units of `2 ^ exponent`, rounded. -/
def scaledQuotient (num den : Nat) (exponent : Int) : Nat :=
  if 0 ≤ exponent then roundQuotient num (den * Nat.pow 2 exponent.toNat)
  else roundQuotient (num * Nat.pow 2 (-exponent).toNat) den

/-- The exponent at which a positive quotient has a mantissa of 53 bits, or the least one. -/
def quotientExponent (num den : Nat) : Int :=
  let estimate : Int := (num.log2 : Int) - (den.log2 : Int) - 53
  let short : Bool :=
    if 0 ≤ estimate then num / (den * Nat.pow 2 estimate.toNat) < Nat.pow 2 53
    else num * Nat.pow 2 (-estimate).toNat / den < Nat.pow 2 53
  max leastExponent (if short then estimate else estimate + 1)

/-- The number nearest to a quotient of natural numbers. -/
def ofQuotient (negative : Bool) (num den : Nat) : Binary64 :=
  if num = 0 then zero negative
  else
    let exponent := quotientExponent num den
    let mantissa := scaledQuotient num den exponent
    let (mantissa, exponent) :=
      if mantissa = Nat.pow 2 53 then (Nat.pow 2 52, exponent + 1) else (mantissa, exponent)
    if inRange : IsInRange mantissa exponent then .finite negative mantissa exponent inRange
    else .infinite negative

/-- The number nearest to `± digits * 10 ^ exponent`.  What is out of range by its size alone is
decided without computing the power of ten. -/
def ofDecimal (negative : Bool) (digits : Nat) (exponent : Int) : Binary64 :=
  let size : Int := (Nat.toDigits 10 digits).length
  if digits = 0 then zero negative
  else if 310 < size + exponent then .infinite negative
  else if size + exponent < -325 then zero negative
  else if 0 ≤ exponent then ofQuotient negative (digits * Nat.pow 10 exponent.toNat) 1
  else ofQuotient negative digits (Nat.pow 10 (-exponent).toNat)

/-- The numerator and the denominator of a magnitude. -/
def quotient (mantissa : Nat) (exponent : Int) : Nat × Nat :=
  if 0 ≤ exponent then (mantissa * Nat.pow 2 exponent.toNat, 1)
  else (mantissa, Nat.pow 2 (-exponent).toNat)

/-- The number nearest to the product of two finite numbers. -/
def times : Binary64 → Binary64 → Binary64
  | .finite negative mantissa exponent _, .finite negative' mantissa' exponent' _ =>
    let (num, den) := quotient (mantissa * mantissa') (exponent + exponent')
    ofQuotient (negative != negative') num den
  | _, _ => .nan

/-- The greatest integer that is not above a number, unless the number is not finite. -/
def floor? : Binary64 → Option Int
  | .finite negative mantissa exponent _ =>
    let (num, den) := quotient mantissa exponent
    some (Int.fdiv (if negative then -(num : Int) else num) den)
  | _ => none

/-- Whether a number is plus or minus zero. -/
def isZero : Binary64 → Bool
  | .finite _ mantissa _ _ => mantissa == 0
  | _ => false

/-- Whether a number is finite with the given mantissa and exponent. -/
def hasMagnitude (mantissa : Nat) (exponent : Int) : Binary64 → Bool
  | .finite _ mantissa' exponent' _ => mantissa' == mantissa && exponent' == exponent
  | _ => false

/-- Whether an integer lies so far out that the nearest number would be infinite. -/
def isTooLarge (n : Int) : Bool :=
  Nat.pow 2 1024 - Nat.pow 2 970 ≤ n.natAbs

end Binary64

end SolidityLayout.Number
