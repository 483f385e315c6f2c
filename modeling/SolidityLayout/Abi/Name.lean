import SolidityLayout.Abi.Alias
import SolidityLayout.Abi.Type
import SolidityLayout.Failure.Basic

/-!
# Names of types

A type name is a base from the catalogue of elementary types, or a short name for one, followed by
array dimensions.  A name that cannot be read is reported with the first thing that is wrong with
it: an unknown base, a place where the grammar does not match, a broken rule, or a tuple.
-/

namespace SolidityLayout

open Text

/-- A way of reading the name of a type. -/
abbrev TypeReader := String → Except Failure AbiType

namespace Abi

/-- The bases of the elementary types. -/
def catalogue : List String :=
  ["uint", "int", "address", "bool", "bytes", "string", "fixed", "ufixed"]

/-- The bases that never take a suffix. -/
def unsizedBases : List String :=
  ["address", "bool", "string"]

/-- The words with which a type name can start. -/
def firstWords : List String :=
  catalogue ++ ["byte"]

/-- Whether two characters stand side by side in a text. -/
def hasPair (a b : Char) : List Char → Bool
  | c :: d :: rest => (c == a && d == b) || hasPair a b (d :: rest)
  | _ => false

/-- The column of a position, counted from one behind the last line feed. -/
def column (cs : List Char) (position : Nat) : Nat :=
  ((cs.take position).reverse.takeWhile (· != '\n')).length + 1

/-- Why a text does not match the grammar, if matching it left the given rest. -/
def mismatch (expanded : List Char) (rest? : Option (List Char)) : UnreadableType :=
  if hasPair '(' ')' expanded then .emptyTuple
  else
    match rest? with
    | none =>
      if Grammar.isTuple expanded then .tupleNotMatched
      else .notMatched (String.ofList (expanded.take 5)) 1 (String.ofList expanded)
    | some rest =>
      .notMatched (String.ofList (rest.take 5)) (column expanded (expanded.length - rest.length))
        (String.ofList expanded)

/-- The report on the first of the basic types that breaks a rule. -/
def firstBreach? (expanded : List Char) (parts : List BasicType) : Option UnreadableType :=
  parts.findSome? fun b =>
    (brokenRule? b.base b.suffix?).map fun rule =>
      .breaksRule (String.ofList b.written) (b.start + 1) (String.ofList expanded) rule

/-- The type that a basic type stands for, if its base is in the catalogue and takes the suffix. -/
def elementOf (b : BasicType) : Except UnreadableType AbiType :=
  let base := String.ofList b.base
  if !catalogue.contains base then .error (.unknownBase base)
  else if unsizedBases.contains base && b.suffix?.isSome then .error (.suffixNotAllowed base)
  else
    let name := b.base ++ ((b.suffix?.map Suffix.spelling).getD [])
    .ok (b.dimensions.foldl AbiType.arrayOf (.elementary (String.ofList name)))

/-- Read what a matched text says. -/
def ofMatched (expanded : List Char) (parts : List BasicType) : Except UnreadableType AbiType :=
  match firstBreach? expanded parts, Grammar.isTuple expanded, parts with
  | some breach, _, _ => .error breach
  | none, false, [b] => elementOf b
  | none, _, _ => .error .tuple

/-- Whether a text starts with a word that starts no type name. -/
def unknownFirstWord? (cs : List Char) : Option String :=
  match cs.takeWhile isLetter with
  | [] => none
  | word => if firstWords.contains (String.ofList word) then none else some (String.ofList word)

/-- Read the name of a type. -/
def readName : TypeReader := fun text =>
  let unreadable (reason : UnreadableType) : Failure :=
    .layout (.unreadableType text (some reason))
  match unknownFirstWord? text.toList with
  | some word => .error (unreadable (.unknownBase word))
  | none =>
    let expanded := expandAliases text.toList
    match Grammar.match? expanded with
    | some (parts, []) =>
      if Grammar.hasLongNumber expanded then .error .longTypeNumber
      else (ofMatched expanded parts).mapError unreadable
    | some (_, rest) => .error (unreadable (mismatch expanded (some rest)))
    | none => .error (unreadable (mismatch expanded none))

end Abi

end SolidityLayout
