import SolidityLayout.Text.Pieces

/-!
# Segments between quotes

A line is cut at its quotes into segments that stand outside and inside of texts by turns.  Double
quotes are looked for first; single quotes in front of the first one may hold some of them.  Behind
the first double quote single quotes mean nothing.
-/

namespace SolidityLayout.Toml

open Text

/-- Cut the last segment at its single quotes once more, after a double quote and the next piece
behind it have been added to it. -/
def addToLast (segments : List (List Char)) (piece : List Char) : List (List Char) :=
  let last := segments.getLast?.getD [] ++ '"' :: piece
  segments.dropLast ++ pieces ['\''] last

/-- The segments of a line that starts with single quotes, given its segments so far and the pieces
between the double quotes that follow.  As long as a single quote is open, double quotes belong to
it.  Answers the pieces that are left as well. -/
def closeSingle (segments : List (List Char)) :
    List (List Char) → List (List Char) × List (List Char)
  | [] => (segments, [])
  | piece :: rest =>
    if segments.length % 2 = 0 then closeSingle (addToLast segments piece) rest
    else (segments, piece :: rest)

/-- The segments of the pieces between double quotes: the first one is cut at its single quotes. -/
def segmentsOf : List (List Char) → List (List Char)
  | [] => []
  | first :: rest => pieces ['\''] first ++ rest

/-- The segments of a line. -/
def segments (line : List Char) : List (List Char) :=
  match pieces ['"'] line with
  | first :: piece :: rest =>
    if first.contains '\'' then
      let (front, left) := closeSingle (pieces ['\''] first) (piece :: rest)
      front ++ segmentsOf left
    else segmentsOf (first :: piece :: rest)
  | parts => segmentsOf parts

/-- The number of occurrences of a separator in the segments up to the first one outside of texts
that holds it; `quoted` says whether the first segment stands inside. -/
def occurrencesInside (separator : List Char) (quoted : Bool) : List (List Char) → Nat
  | [] => 0
  | segment :: rest =>
    let n := occurrences separator segment
    if !quoted && n != 0 then 0 else n + occurrencesInside separator (!quoted) rest

/-- The number of the first occurrence of a separator that stands outside of texts, counted from
one. -/
def firstOutside (separator line : List Char) : Nat :=
  occurrencesInside separator false (segments line) + 1

end SolidityLayout.Toml
