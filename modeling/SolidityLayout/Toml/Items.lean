import SolidityLayout.Text.Blank
import SolidityLayout.Text.Pieces
import SolidityLayout.Toml.Fault

/-!
# Items of arrays and inline tables

An array in brackets and a table in braces are cut into their items at commas, and items are joined
again where a comma belongs to a text, an array or a table inside.  How an array is cut hangs on its
first item: texts are joined until they are closed, tables are found by their braces, and arrays by
their brackets.
-/

namespace SolidityLayout.Toml

open Text

/-- Whether a character is a quote. -/
def isQuote (c : Char) : Bool :=
  c == '"' || c == '\''

/-- Whether a text starts with a quote, blanks aside. -/
def startsWithQuote (cs : List Char) : Bool :=
  ((strip cs).head?.map isQuote).getD false

/-! ## Arrays of texts -/

/-- Whether a text ends with the character it starts with, unless a backslash takes that away. -/
def isBounded (cs : List Char) : Bool :=
  cs.head? == cs.getLast? && !endsInOddBackslashes (inside cs)

/-- Whether a text starts with a triple quote and does not end with one. -/
def hasOpenTriple (cs : List Char) : Bool :=
  match cs with
  | a :: b :: c :: _ =>
    a == b && b == c && !(((cs.reverse.drop 1).take 2).contains a)
  | _ => false

/-- Whether the end of a text is still to come. -/
def isUnfinished (cs : List Char) : Bool :=
  let cs := strip cs
  !isBounded cs || hasOpenTriple cs

/-- Join the pieces between commas as long as their texts are unfinished.  The last piece is taken
as it is, but a text that was joined with it has to be finished; `joined` says whether the given
piece was. -/
def joinTexts (joined : Bool) (piece : List Char) :
    List (List Char) → Except Fault (List (List Char))
  | [] => if joined && isUnfinished piece then .error .nothingThere else .ok [piece]
  | next :: rest =>
    if isUnfinished piece then joinTexts true (piece ++ ',' :: next) rest
    else (joinTexts false next rest).map (piece :: ·)

/-! ## Arrays of tables -/

/-- The place in an array of tables. -/
inductive BracePlace
  /-- In a table; `piece` holds its start, last character first. -/
  | inTable (piece : List Char) (inText : Bool)
  /-- Right behind a table. -/
  | behindTable
  /-- On the way to the next table. -/
  | between

/-- Whether a place is in a text behind a quote.  A text ends at any quote, unless an odd number of
backslashes stands in front of it. -/
def turnsInText (inText : Bool) (piece : List Char) : Bool :=
  !inText || startsInOddBackslashes piece

/-- The tables in an array of tables; `depth` is the number of braces open. -/
def tableItems (depth : Nat) : BracePlace → List Char → List (List Char)
  | _, [] => []
  | .behindTable, _ :: rest => tableItems depth .between rest
  | .between, c :: rest =>
    if c = '\x7b' then tableItems depth (.inTable [c] false) rest
    else tableItems depth .between rest
  | .inTable piece inText, c :: rest =>
    let inText := if isQuote c then turnsInText inText piece else inText
    let depth := if !inText && c == '\x7b' then depth + 1 else depth
    if inText || c != '\x7d' then tableItems depth (.inTable (c :: piece) inText) rest
    else if 1 < depth then tableItems (depth - 1) (.inTable (c :: piece) inText) rest
    else (c :: piece).reverse :: tableItems depth .behindTable rest

/-- The tables in the inside of an array that holds tables. -/
def tablesOf (cs : List Char) : List (List Char) :=
  match cs with
  | [] => []
  | c :: rest => tableItems (if c = '\x7b' then 1 else 0) (.inTable [c] false) rest

/-! ## Arrays of arrays -/

/-- The pieces between the commas outside of brackets; `piece` holds the start of the first one,
last character first. -/
def arrayItems (depth : Int) (piece : List Char) : List Char → List (List Char)
  | [] => [piece.reverse]
  | c :: rest =>
    if c = ',' ∧ depth = 0 then piece.reverse :: arrayItems depth [] rest
    else
      let step : Int := if c = '[' then 1 else if c = ']' then -1 else 0
      arrayItems (depth + step) (c :: piece) rest

/-- The items of an array in brackets, as they are written; some may be blank. -/
def itemsOf (cs : List Char) : Except Fault (List (List Char)) :=
  let cs := inside (strip cs)
  if cs.contains '[' && (strip (cs.takeWhile (· != '['))).isEmpty then .ok (arrayItems 0 [] cs)
  else if (strip cs).head? = some '\x7b' then .ok (tablesOf cs)
  else
    match pieces [','] cs with
    | first :: rest =>
      if startsWithQuote cs then joinTexts false first rest else .ok (first :: rest)
    | [] => .ok []

/-! ## Inline tables -/

/-- Whether a text starts and ends with given characters. -/
def isBetween (first last : Char) (cs : List Char) : Bool :=
  cs.head? == some first && cs.getLast? == some last

/-- Whether the value of an entry is complete as far as can be seen from its ends. -/
def looksComplete (value : List Char) : Bool :=
  (value.head?.any isQuote && value.head? == value.getLast?) ||
    value.head?.any (fun c => c == '-' || ('0' ≤ c && c ≤ '9')) ||
    value == ['t', 'r', 'u', 'e'] || value == ['f', 'a', 'l', 's', 'e'] ||
    isBetween '[' ']' value || isBetween '\x7b' '\x7d' value

/-- Whether the value of an entry looks complete, if there is an entry with a value. -/
def hasCompleteValue (piece : List Char) : Except Fault Bool :=
  match piece.dropWhile (· != '=') with
  | [] => .error .malformed
  | _ :: value =>
    if (strip value).isEmpty then .error .nothingThere else .ok (looksComplete (strip value))

/-- Join the pieces between commas as long as their values look incomplete. -/
def joinEntries (piece : List Char) : List (List Char) → Except Fault (List (List Char))
  | [] => do if ← hasCompleteValue piece then .ok [piece] else .error .malformed
  | next :: rest => do
    if ← hasCompleteValue piece then (joinEntries next rest).map (piece :: ·)
    else joinEntries (piece ++ ',' :: next) rest

/-- The entries of a table in braces, as they are written. -/
def entriesOf (cs : List Char) : Except Fault (List (List Char)) :=
  match pieces [','] (inside cs) with
  | [] => .ok []
  | [piece] => if (strip piece).isEmpty then .ok [] else joinEntries piece []
  | piece :: rest => joinEntries piece rest

end SolidityLayout.Toml
