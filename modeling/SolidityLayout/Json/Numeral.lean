import SolidityLayout.Json.Basic
import SolidityLayout.Number.Decimal
import SolidityLayout.Text.WordCharacter

/-!
# JSON number literals

A number literal is an optional minus sign, digits without leading zeros, and optionally a fraction
and an exponent.  Without both of these it denotes an integer, otherwise a floating-point number.
-/

namespace SolidityLayout.Json

open Number Text

/-- The parts of a number literal; digits are kept as they were written. -/
structure Numeral where
  negative : Bool
  whole : List Char
  fraction : List Char
  /-- The sign and the digits of the exponent. -/
  exponent : Bool × List Char
  deriving DecidableEq, Repr

namespace Numeral

/-- Whether the literal denotes an integer. -/
def isInteger (n : Numeral) : Bool :=
  n.fraction.isEmpty && n.exponent.2.isEmpty

/-- The number that ASCII digits denote. -/
def digitsValue (digits : List Char) : Nat :=
  Nat.ofDigitChars 10 digits 0

/-- The denoted value; an integer is limited in its number of digits if a limit is given. -/
def value? (limit : Option Nat) (n : Numeral) : Option Json :=
  if n.isInteger then
    if limit.any (· < n.whole.length) then none
    else
      let magnitude : Int := digitsValue n.whole
      some (.int (if n.negative then -magnitude else magnitude))
  else
    let shift : Int := digitsValue n.exponent.2
    let exponent := (if n.exponent.1 then -shift else shift) - n.fraction.length
    some (.float (.ofDecimal n.negative (digitsValue (n.whole ++ n.fraction)) exponent))

/-- The digits before the point: a single zero, or digits that do not start with one. -/
def scanWhole (cs : List Char) : List Char :=
  match cs with
  | '0' :: _ => ['0']
  | _ => cs.takeWhile isDigit

/-- The digits behind a point, if a point with digits behind it follows. -/
def scanFraction : List Char → List Char
  | '.' :: rest => rest.takeWhile isDigit
  | _ => []

/-- The exponent, if one with digits follows, and the number of its characters. -/
def scanExponent : List Char → (Bool × List Char) × Nat
  | e :: rest =>
    if e = 'e' ∨ e = 'E' then
      let (negative, signSize) : Bool × Nat :=
        match rest with
        | '-' :: _ => (true, 1)
        | '+' :: _ => (false, 1)
        | _ => (false, 0)
      match (rest.drop signSize).takeWhile isDigit with
      | [] => ((false, []), 0)
      | digits => ((negative, digits), 1 + signSize + digits.length)
    else ((false, []), 0)
  | [] => ((false, []), 0)

/-- Read the longest literal at the start of a text; also answers the number of its characters. -/
def scan? (cs : List Char) : Option (Numeral × Nat) :=
  let (negative, signSize) : Bool × Nat :=
    match cs with
    | '-' :: _ => (true, 1)
    | _ => (false, 0)
  match scanWhole (cs.drop signSize) with
  | [] => none
  | whole =>
    let wholeSize := signSize + whole.length
    let fraction := scanFraction (cs.drop wholeSize)
    let fractionSize := wholeSize + (if fraction.isEmpty then 0 else fraction.length + 1)
    let (exponent, exponentSize) := scanExponent (cs.drop fractionSize)
    some (⟨negative, whole, fraction, exponent⟩, fractionSize + exponentSize)

end Numeral

end SolidityLayout.Json
