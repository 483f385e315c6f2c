import SolidityLayout.Toml.Items
import SolidityLayout.Toml.Numeral
import SolidityLayout.Toml.Segments

/-!
# Lines with a key and a value

The value of a line stands behind the first equals sign outside of texts, or behind a later one if
what stands there cannot be a value.  The key is a path: its parts are separated by points, and
empty parts do not count.
-/

namespace SolidityLayout.Toml

open Text

/-- A line with a key and a value. -/
structure Field where
  key : List Char
  value : List Char
  /-- The value with all of its low lines. -/
  written : List Char

namespace Field

/-- Whether what stands behind an equals sign can be a value: it starts with a blank, a quote or a
bracket, or it is a constant, a floating-point number, a date or a time. -/
def isPlausible (cs : List Char) : Bool :=
  match cs with
  | [] => true
  | c :: _ =>
    [' ', '\t', '\'', '"', '[', '\x7b'].contains c ||
      ["true", "false"].contains (String.ofList (strip cs)) ||
      Numeral.isLiberalFloat cs || (Moment.read? cs).isSome || (Time.scan? cs).isSome

/-- What stands behind an equals sign, without low lines if it starts with a digit. -/
def firstValue (cs : List Char) : List Char :=
  if cs.head?.any isDigit then cs.filter (· != '_') else cs

/-- Look for the value behind the `n`-th equals sign and the ones after it; `value` is what stands
behind the `n`-th.  Each round of `fuel` goes on by one. -/
def seek? (line value : List Char) (n : Nat) : Nat → Option Field
  | 0 => none
  | fuel + 1 =>
    let (key, written) := cutAt ['='] n line
    if isPlausible value then some ⟨strip key, strip value, strip written⟩
    else
      let next := (cutAt ['='] (n + 1) line).2
      if next = value then none else seek? line next (n + 1) fuel

/-- The field in a line that holds an equals sign. -/
def read? (line : List Char) : Option Field :=
  let n := firstOutside ['='] line
  seek? line (firstValue (cutAt ['='] n line).2) n (occurrences ['='] line + 2)

/-- The parts of a key in which the segments stand outside and inside of quotes by turns. -/
def quotedParts (quoted : Bool) : List (List Char) → List (List Char)
  | [] => []
  | segment :: rest =>
    (if quoted then [segment] else (pieces ['.'] segment).map strip) ++ quotedParts (!quoted) rest

/-- The parts of a key with points, the empty ones at the end left out. -/
def partsOf (key : List Char) : List (List Char) :=
  let parts := if key.any isQuote then quotedParts false (segments key) else pieces ['.'] key
  (parts.reverse.dropWhile List.isEmpty).reverse

/-- A key in quotes without its quotes. -/
def unquoted (key : List Char) : List Char :=
  if key.head? == key.getLast? && key.head?.any isQuote then inside key else key

/-- The path that a key stands for: the keys of the tables on the way, and the last key. -/
def pathOf (key : List Char) : Except Fault (List String × String) :=
  if key.contains '.' then
    let parts := partsOf key
    match parts.getLast? with
    | none => .error .nothingThere
    | some last =>
      let way := parts.dropLast.filter (!·.isEmpty)
      .ok (way.map String.ofList, String.ofList (strip last))
  else if key.isEmpty then .error .nothingThere
  else .ok ([], String.ofList (unquoted key))

/-! ## Texts over several lines -/

/-- The last item of an array of texts: pieces between commas are joined until one starts with a
quote; the pieces come last one first. -/
def lastText (piece : List Char) : List (List Char) → Except Fault (List Char)
  | [] => .ok piece
  | previous :: rest =>
    match piece with
    | [] => .error .nothingThere
    | c :: _ => if isQuote c then .ok piece else lastText (previous ++ ',' :: piece) rest

/-- Whether a text starts with a triple quote that is not closed at its end. -/
def opensTriple (cs : List Char) : Except Fault Bool :=
  match cs with
  | [] => .error .nothingThere
  | a :: rest =>
    if !isQuote a then .ok false
    else
      match rest with
      | [] => .error .nothingThere
      | b :: rest =>
        if b != a then .ok false
        else
          match rest with
          | [] => .error .nothingThere
          | c :: _ => .ok (c == a && !(5 < cs.length && (cs.reverse.take 3).all (· == a)))

/-- Whether a value goes on in the next line: it starts with a triple quote, or it is an array of
texts whose last item does so. -/
def goesOn (value : List Char) : Except Fault Bool :=
  if value.length < 3 then .ok false
  else if value.head? = some '[' ∧ value.getLast? ≠ some ']' ∧
      startsWithQuote (inside value) then
    match (pieces [','] (strip (value.drop 1))).reverse with
    | [] => .ok false
    | last :: before => do opensTriple (← lastText last before)
  else opensTriple value

end Field

end SolidityLayout.Toml
