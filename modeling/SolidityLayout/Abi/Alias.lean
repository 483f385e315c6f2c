import SolidityLayout.Text.WordCharacter

/-!
# Short names of elementary types

Some elementary types have a short name.  Before a type name is taken apart, every word in it that
is such a name is replaced by the full name.  A word is a longest row of word characters.
-/

namespace SolidityLayout.Abi

open Text

/-- The short names and what they stand for. -/
def aliases : List (String × String) :=
  [("int", "int256"), ("uint", "uint256"), ("fixed", "fixed128x18"), ("ufixed", "ufixed128x18"),
   ("function", "bytes24"), ("byte", "bytes1")]

/-- The full name of a word that is a short name; any other word stands for itself. -/
def expandWord (word : List Char) : List Char :=
  match aliases.lookup (String.ofList word) with
  | some name => name.toList
  | none => word

/-- Replace the short names in a text; `word` holds the characters of a word in progress, last
first. -/
def expandFrom (word : List Char) : List Char → List Char
  | [] => expandWord word.reverse
  | c :: rest =>
    if isWordCharacter c then expandFrom (c :: word) rest
    else expandWord word.reverse ++ c :: expandFrom [] rest

/-- Replace every word of a text that is a short name. -/
def expandAliases (cs : List Char) : List Char :=
  expandFrom [] cs

end SolidityLayout.Abi
