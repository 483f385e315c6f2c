import SolidityLayout.Number.Decimal
import SolidityLayout.Text.Blank
import SolidityLayout.Text.DecimalDigit
import SolidityLayout.Text.HexDigit

/-!
# Integer literals

Two spellings of integers are read: decimal literals, with a sign and with digits of any script, and
hexadecimal literals behind `0x`.  In both, single underscores may separate the digits.
-/

namespace SolidityLayout.Number

open Text

/-- Read a non-empty row of digits in which single underscores may stand between two digits. -/
def groupedDigits? (digit? : Char → Option Nat) : List Char → Option (List Nat)
  | [] => none
  | [c] => (digit? c).map ([·])
  | c :: d :: rest =>
    match digit? c with
    | none => none
    | some value =>
      if d = '_' then (groupedDigits? digit? rest).map (value :: ·)
      else (groupedDigits? digit? (d :: rest)).map (value :: ·)

/-- The blanks that may surround an integer literal: all but the four ASCII separators. -/
def isLiteralBlank (c : Char) : Bool :=
  isBlank c && !(0x1C ≤ c.toNat && c.toNat ≤ 0x1F)

/-- Read an unsigned decimal literal within the digit limit; leading zeros count as digits. -/
def unsignedDecimal? (cs : List Char) : Option Nat :=
  match groupedDigits? digitValue? cs with
  | none => none
  | some digits => if digits.length ≤ digitLimit then some (ofDigits 10 digits) else none

/-- Read a decimal literal with at most one sign and no blanks. -/
def signedDecimal? : List Char → Option Int
  | '+' :: rest => (unsignedDecimal? rest).map Int.ofNat
  | '-' :: rest => (unsignedDecimal? rest).map fun n => -(n : Int)
  | cs => (unsignedDecimal? cs).map Int.ofNat

/-- Read a decimal literal between blanks. -/
def decimal? (cs : List Char) : Option Int :=
  signedDecimal? (trim isLiteralBlank cs)

/-- Whether a text starts like a hexadecimal literal. -/
def startsHexadecimal : List Char → Bool
  | '0' :: x :: _ => x == 'x' || x == 'X'
  | _ => false

/-- Read what follows the `0x` of a hexadecimal literal; its length has no limit. -/
def hexadecimalDigits? : List Char → Option Nat
  | '_' :: rest => (groupedDigits? hexDigitValue? rest).map (ofDigits 16)
  | cs => (groupedDigits? hexDigitValue? cs).map (ofDigits 16)

/-- Read an integer literal without blanks, in hexadecimal if it starts with `0x`. -/
def literal? (cs : List Char) : Option Int :=
  if startsHexadecimal cs then (hexadecimalDigits? (cs.drop 2)).map Int.ofNat
  else decimal? cs

end SolidityLayout.Number
