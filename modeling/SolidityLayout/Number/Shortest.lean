import SolidityLayout.Number.Binary64
import SolidityLayout.Number.Decimal

/-!
# Shortest decimal text of a floating-point number

A finite number is written with the fewest digits that read back as the same number, and of those
digits with the nearest ones.  The notation is positional for decimal exponents from -4 to 15 and
keeps a digit behind the point; otherwise an exponent of at least two digits follows.
-/

namespace SolidityLayout.Number.Binary64

/-- A decimal number `digits * 10 ^ exponent`. -/
structure Decimal where
  digits : Nat
  exponent : Int
  deriving DecidableEq, Repr

/-- The exact decimal value of a magnitude, as digits and the number of places behind the point. -/
def expansion (mantissa : Nat) (exponent : Int) : Nat × Nat :=
  if 0 ≤ exponent then (mantissa * Nat.pow 2 exponent.toNat, 0)
  else (mantissa * Nat.pow 5 (-exponent).toNat, (-exponent).toNat)

/-- The two neighbours of `digits / 10 ^ places` among the multiples of `10 ^ cut / 10 ^ places`,
the nearer one first. -/
def neighbours (digits places cut : Nat) : List Decimal :=
  let unit := Nat.pow 10 cut
  let low := digits / unit
  let exponent : Int := (cut : Int) - places
  let rest := 2 * (digits % unit)
  if rest < unit ∨ rest = unit ∧ low % 2 = 0 then [⟨low, exponent⟩, ⟨low + 1, exponent⟩]
  else [⟨low + 1, exponent⟩, ⟨low, exponent⟩]

/-- The first decimal number with at most `count` more digits that reads back as a magnitude. -/
def firstReadingBack (mantissa : Nat) (exponent : Int) (digits places size : Nat) :
    Nat → Nat → Decimal
  | 0, _ => ⟨digits, -places⟩
  | more + 1, count =>
    let reads (d : Decimal) : Bool :=
      (ofDecimal false d.digits d.exponent).hasMagnitude mantissa exponent
    match (neighbours digits places (size - count)).find? reads with
    | some d => d
    | none => firstReadingBack mantissa exponent digits places size more (count + 1)

/-- The shortest decimal number that reads back as a positive magnitude. -/
def shortest (mantissa : Nat) (exponent : Int) : Decimal :=
  let (digits, places) := expansion mantissa exponent
  firstReadingBack mantissa exponent digits places (decimalNat digits).length 17 1

/-- The decimal exponents that are written positionally. -/
def isPositional (exponent : Int) : Bool :=
  -4 ≤ exponent && exponent < 16

/-- An exponent with its sign and at least two digits. -/
def exponentText (exponent : Int) : List Char :=
  let digits := decimalNat exponent.natAbs
  (if exponent < 0 then '-' else '+') :: (List.replicate (2 - digits.length) '0' ++ digits)

/-- Digits `d₀d₁d₂…` with the value `d₀.d₁d₂… * 10 ^ exponent`, in either notation. -/
def layOut (digits : List Char) (exponent : Int) : List Char :=
  if isPositional exponent then
    if exponent < 0 then '0' :: '.' :: (List.replicate (-exponent - 1).toNat '0' ++ digits)
    else
      let whole := exponent.toNat + 1
      let front := digits.take whole
      let back := digits.drop whole
      front ++ List.replicate (whole - front.length) '0' ++
        '.' :: (if back.isEmpty then ['0'] else back)
  else
    digits.take 1 ++ (if digits.length ≤ 1 then [] else '.' :: digits.drop 1) ++
      'e' :: exponentText exponent

/-- The digits without the zeros at their end. -/
def dropTrailingZeros (digits : List Char) : List Char :=
  (digits.reverse.dropWhile (· == '0')).reverse

/-- The text of a positive magnitude. -/
def magnitudeText (mantissa : Nat) (exponent : Int) : List Char :=
  let d := shortest mantissa exponent
  let digits := decimalNat d.digits
  layOut (dropTrailingZeros digits) (d.exponent + digits.length - 1)

/-- The text of a number. -/
def text : Binary64 → String
  | .finite negative mantissa exponent _ =>
    let sign := if negative then ['-'] else []
    let magnitude :=
      if mantissa = 0 then ['0', '.', '0'] else magnitudeText mantissa exponent
    String.ofList (sign ++ magnitude)
  | .infinite negative => if negative then "-inf" else "inf"
  | .nan => "nan"

end SolidityLayout.Number.Binary64
