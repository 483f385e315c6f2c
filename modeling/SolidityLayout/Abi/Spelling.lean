import SolidityLayout.Abi.Name
import SolidityLayout.Number.Decimal
import SolidityLayout.Text.Blank
import SolidityLayout.Text.DecimalDigit

/-!
# Spellings of value types

A value type is read from its text by taking off the array dimensions from the right, one at a
time, and handing what is left to a reader of type names.  Blanks may stand around every part, and
the size of an array may be written with leading zeros and in the digits of any script.
-/

namespace SolidityLayout

open Text Number

namespace AbiType

/-- Split off the last dimension of a text: the characters before it and the digits in it. -/
def lastDimension? (cs : List Char) : Option (List Char × List Char) :=
  match cs.reverse with
  | ']' :: back =>
    match back.dropWhile isDecimalDigit with
    | '[' :: element => some (element.reverse, (back.takeWhile isDecimalDigit).reverse)
    | _ => none
  | _ => none

theorem lastDimension?_length {cs element digits : List Char}
    (h : lastDimension? cs = some (element, digits)) : element.length < cs.length := by
  unfold lastDimension? at h
  split at h
  · rename_i back reversed
    split at h
    · rename_i front dropped
      simp only [Option.some.injEq, Prod.mk.injEq] at h
      have whole := congrArg List.length reversed
      have less := length_dropWhile_le isDecimalDigit back
      rw [← h.1]
      rw [dropped] at less
      simp only [List.length_reverse, List.length_cons] at whole less ⊢
      omega
    · cases h
  · cases h

/-- The size that the digits in a dimension denote; no digits denote no size. -/
def sizeOf? (digits : List Char) : Except Failure (Option Nat) :=
  if digits.isEmpty then .ok none
  else if digitLimit < digits.length then .error .longNumber
  else .ok (some (ofDigits 10 (digits.filterMap digitValue?)))

/-- Read a value type. -/
def ofSpelling (reader : TypeReader) (cs : List Char) : Except Failure AbiType :=
  let text := strip cs
  match _found : lastDimension? text with
  | none => reader (String.ofList text)
  | some (element, digits) =>
    match ofSpelling reader element with
    | .error failure => .error failure
    | .ok type => (sizeOf? digits).map type.arrayOf
termination_by cs.length
decreasing_by exact Nat.lt_of_lt_of_le (lastDimension?_length _found) (length_strip_le cs)

end AbiType

end SolidityLayout
