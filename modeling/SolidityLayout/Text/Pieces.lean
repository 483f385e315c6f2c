/-!
# Pieces of a text

A text is cut at a separator into the pieces between its occurrences.  Joining the pieces with the
separator gives the text back, so that pieces can be joined again where a cut was not meant.
-/

namespace SolidityLayout.Text

/-- Whether a text starts with an odd number of backslashes. -/
def startsInOddBackslashes (cs : List Char) : Bool :=
  (cs.takeWhile (· == '\\')).length % 2 == 1

/-- Whether a text ends in an odd number of backslashes, so that the last one is not taken by the
one before it. -/
def endsInOddBackslashes (cs : List Char) : Bool :=
  startsInOddBackslashes cs.reverse

/-- The pieces of a text between the occurrences of a separator, taken from the left without
overlap; `piece` holds the start of the first piece, last character first, and `skipped` counts the
characters that still belong to a separator. -/
def piecesFrom (separator piece : List Char) : Nat → List Char → List (List Char)
  | _, [] => [piece.reverse]
  | skipped + 1, _ :: rest => piecesFrom separator piece skipped rest
  | 0, c :: rest =>
    if separator.isPrefixOf (c :: rest) then
      piece.reverse :: piecesFrom separator [] (separator.length - 1) rest
    else piecesFrom separator (c :: piece) 0 rest

/-- The pieces of a text between the occurrences of a separator. -/
def pieces (separator cs : List Char) : List (List Char) :=
  piecesFrom separator [] 0 cs

/-- How often a separator occurs in a text. -/
def occurrences (separator cs : List Char) : Nat :=
  (pieces separator cs).length - 1

/-- Whether a text holds another one. -/
def holds (part cs : List Char) : Bool :=
  part.isEmpty || occurrences part cs != 0

/-- A text in two at the `n`-th occurrence of a separator, or at the last one if there are fewer;
without any, all of the text is the second part. -/
def cutAt (separator : List Char) (n : Nat) (cs : List Char) : List Char × List Char :=
  let parts := pieces separator cs
  let n := min n (parts.length - 1)
  (separator.intercalate (parts.take n), separator.intercalate (parts.drop n))

/-- The part of a text without its first and last character. -/
def inside (cs : List Char) : List Char :=
  (cs.drop 1).dropLast

end SolidityLayout.Text
