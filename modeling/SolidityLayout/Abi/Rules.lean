import SolidityLayout.Abi.Grammar

/-!
# Rules for basic types

Not every base takes every suffix.  Each rule that a basic type can break is a value of its own,
with the words in which it is reported.
-/

namespace SolidityLayout.Abi

open Number

/-- The rules that a basic type can break. -/
inductive BrokenRule
  | textWithSuffix
  | bytesWithPair
  | bytesTooLong
  | integerWithoutSize
  | integerOutOfBounds
  | integerNotInOctets
  | decimalWithoutPair
  | decimalOutOfBounds
  | decimalNotInOctets
  | decimalPlaces (places : Nat)
  | hashWithoutSize
  | addressWithSuffix
  deriving DecidableEq, Repr

namespace BrokenRule

/-- The rule in words. -/
def message : BrokenRule → String
  | textWithSuffix => "string type cannot have suffix"
  | bytesWithPair => "bytes type must have either no suffix or a numerical suffix"
  | bytesTooLong => "maximum 32 bytes for fixed-length bytes"
  | integerWithoutSize => "integer type must have numerical suffix"
  | integerOutOfBounds => "integer size out of bounds (max 256 bits)"
  | integerNotInOctets => "integer size must be multiple of 8"
  | decimalWithoutPair => "fixed type must have suffix of form <bits>x<exponent>, e.g. 128x19"
  | decimalOutOfBounds => "fixed size out of bounds (max 256 bits)"
  | decimalNotInOctets => "fixed size must be multiple of 8"
  | decimalPlaces places =>
    "fixed exponent size out of bounds, " ++ String.ofList (decimalNat places) ++ " must be in 1-80"
  | hashWithoutSize => "hash type must have numerical suffix"
  | addressWithSuffix => "address cannot have suffix"

end BrokenRule

/-- The rule that an integer's size breaks. -/
def brokenByInteger? : Option Suffix → Option BrokenRule
  | some (.size bits) =>
    if bits < 8 ∨ 256 < bits then some .integerOutOfBounds
    else if bits % 8 ≠ 0 then some .integerNotInOctets
    else none
  | _ => some .integerWithoutSize

/-- The rule that the bits and places of a fixed-point number break. -/
def brokenByDecimal? : Option Suffix → Option BrokenRule
  | some (.pair bits places) =>
    if bits < 8 ∨ 256 < bits then some .decimalOutOfBounds
    else if bits % 8 ≠ 0 then some .decimalNotInOctets
    else if places < 1 ∨ 80 < places then some (.decimalPlaces places)
    else none
  | _ => some .decimalWithoutPair

/-- The rule that the length of a row of bytes breaks. -/
def brokenByBytes? : Option Suffix → Option BrokenRule
  | none => none
  | some (.size count) => if 32 < count then some .bytesTooLong else none
  | some (.pair ..) => some .bytesWithPair

/-- The first rule that a base with a suffix breaks. -/
def brokenRule? (base : List Char) (suffix? : Option Suffix) : Option BrokenRule :=
  match String.ofList base with
  | "string" => suffix?.map fun _ => .textWithSuffix
  | "bytes" => brokenByBytes? suffix?
  | "int" | "uint" => brokenByInteger? suffix?
  | "fixed" | "ufixed" => brokenByDecimal? suffix?
  | "hash" =>
    match suffix? with
    | some (.size _) => none
    | _ => some .hashWithoutSize
  | "address" => suffix?.map fun _ => .addressWithSuffix
  | _ => none

end SolidityLayout.Abi
