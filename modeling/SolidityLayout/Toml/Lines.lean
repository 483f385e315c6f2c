import SolidityLayout.Text.Blank
import SolidityLayout.Text.Pieces
import SolidityLayout.Text.WordCharacter
import SolidityLayout.Toml.Fault

/-!
# Lines of TOML documents

Before a document is read, its text is brought into lines that can be read one by one.  Comments
turn into blanks, the lines of an array are joined, and a line feed right behind an opening triple
quote goes.  On the way every key is checked: without quotes it holds letters, digits, low lines,
hyphens, points, and blanks next to its points.  Texts over several lines stay as they are; the
reader puts their lines together again.
-/

namespace SolidityLayout.Toml

open Text

/-- Where the key of a line is. -/
inductive KeyPosition
  /-- Behind the key, or in a line without one. -/
  | over
  /-- In a part of the key. -/
  | inside
  /-- Behind a part of the key. -/
  | behind
  deriving DecidableEq, Repr

/-- The names in brackets that a line can consist of. -/
inductive Brackets
  | single
  | double
  deriving DecidableEq, Repr

/-- What is known in the middle of a text about the place that is reached. -/
structure Place where
  key : KeyPosition
  /-- Whether the key has a point. -/
  dotted : Bool
  /-- The quote that a text was opened with. -/
  quote? : Option Char
  /-- Whether a triple quote was opened. -/
  triple : Bool
  /-- The brackets around a name that were opened. -/
  brackets? : Option Brackets
  /-- The number of arrays that were opened. -/
  depth : Int
  /-- Whether nothing but blanks stands in front on the line. -/
  atStart : Bool
  inComment : Bool
  deriving DecidableEq, Repr

namespace Place

/-- The place in front of a text. -/
def start : Place := ⟨.over, false, none, false, none, 0, true, false⟩

/-- Whether a character may stand in a key without quotes. -/
def isKeyCharacter (c : Char) : Bool :=
  isWordCharacter c || c == '-'

/-- Go on with a key behind a blank or a point, if the next character does not do so again. -/
def resumeKey (p : Place) (next? : Option Char) : Except Fault Place :=
  match next? with
  | none => .error .nothingThere
  | some next => .ok (if isBlank next || next == '.' then p else { p with key := .inside })

/-- Pass the character that ends a key. -/
def endKey (p : Place) (c : Char) : Except Fault Place :=
  if c = '=' then .ok { p with key := .over, dotted := false } else .error .malformed

/-- Pass a character of a key, or the equals sign behind it; `before` holds what stands in front of
it, nearest character first. -/
def passKey (p : Place) (before : List Char) (c : Char) (next? : Option Char) :
    Except Fault Place :=
  if c = '\n' then .error .malformed
  else
    match p.quote?, p.key with
    | some quote, _ =>
      if c = quote ∧ !startsInOddBackslashes before then
        .ok { p with key := .behind, quote? := none }
      else .ok p
    | none, .inside =>
      if isBlank c then .ok { p with key := .behind }
      else if c = '.' then .ok { p with dotted := true }
      else if isKeyCharacter c then .ok p
      else if p.dotted ∧ before.head? = some '.' ∧ (c = '"' ∨ c = '\'') then
        .ok { p with quote? := some c }
      else p.endKey c
    | none, _ =>
      if isBlank c then if p.dotted then p.resumeKey next? else .ok p
      else if c = '.' then { p with dotted := true }.resumeKey next?
      else p.endKey c

/-- Pass a quote that opens or closes a text; `triple` says whether it is the third one in a row. -/
def turnQuote (p : Place) (quote : Char) (triple : Bool) : Place :=
  let opens := if triple then !p.triple else p.quote?.isNone
  { p with triple := p.triple != triple, quote? := if opens then some quote else none }

/-- Pass a character that may be a quote.  Between quotes of one kind the other kind means nothing,
and neither does a double quote behind an odd number of backslashes. -/
def passQuote (p : Place) (before : List Char) (c : Char) : Place :=
  let run := (before.take 2).takeWhile (· == c)
  let triple := run.length == 2
  if c = '\'' ∧ p.quote? ≠ some '"' then p.turnQuote c triple
  else if c = '"' ∧ p.quote? ≠ some '\'' then
    let escaped := run.length != 1 && startsInOddBackslashes (before.drop run.length)
    if escaped then p else p.turnQuote c triple
  else p

/-- Pass a bracket outside of texts. -/
def passBracket (p : Place) (before : List Char) (c : Char) (next? : Option Char) : Place :=
  if c = '[' ∧ p.brackets?.isNone then
    if p.atStart then { p with brackets? := some (if next? = some '[' then .double else .single) }
    else { p with depth := p.depth + 1 }
  else if c = ']' then
    match p.brackets? with
    | some .single => { p with brackets? := none }
    | some .double => if before.head? = some ']' then { p with brackets? := none } else p
    | none => { p with depth := p.depth - 1 }
  else p

/-- Pass the first character of a line that is no blank. -/
def passStart (p : Place) (c : Char) : Except Fault Place :=
  let p := { p with atStart := false }
  if p.brackets?.isSome then .ok p
  else if c = '=' then .error .malformed
  else .ok { p with key := .inside }

/-- What is left in front of a line feed and of the line feed itself in a text over several lines: a
line feed behind two quotes becomes a third one, and takes the place of a quote further in front. -/
def closeUp (before : List Char) : List Char :=
  match before with
  | a :: b :: rest =>
    if (a = '"' ∨ a = '\'') ∧ b = a then
      match rest with
      | c :: rest => a :: a :: b :: (if c = a then ' ' else c) :: rest
      | [] => [a, a, b]
    else '\n' :: before
  | _ => '\n' :: before

/-- Pass a line feed.  Answers the text up to there as well, nearest character first. -/
def passLineFeed (p : Place) (before : List Char) : Except Fault (Place × List Char) :=
  if p.quote?.isSome || p.triple then
    if p.triple then .ok (p, closeUp before) else .error .malformed
  else if p.depth ≠ 0 then .ok (p, ' ' :: before)
  else .ok ({ p with atStart := true }, '\n' :: before)

/-- Pass a character.  Answers the text up to there as well, nearest character first. -/
def pass (p : Place) (before : List Char) (c : Char) (next? : Option Char) :
    Except Fault (Place × List Char) := do
  if p.inComment && c != '\n' then return (p, ' ' :: before)
  let p := { p with inComment := false }
  let inKey := p.key != .over
  let p ← if inKey then p.passKey before c next? else .ok p
  if inKey && c != '=' || p.key != .over then return (p, c :: before)
  let p := p.passQuote before c
  if c = '#' ∧ p.quote?.isNone ∧ p.brackets?.isNone then
    return ({ p with inComment := true }, ' ' :: before)
  let p := if p.quote?.isNone then p.passBracket before c next? else p
  if c = '\n' then p.passLineFeed before
  else
    let p ← if p.atStart && c != ' ' && c != '\t' then p.passStart c else .ok p
    return (p, c :: before)

/-- Pass all characters; `before` holds what stands in front, nearest character first. -/
def passAll (p : Place) (before : List Char) : List Char → Except Fault (List Char)
  | [] => if p.key = .over ∧ p.quote?.isNone then .ok before else .error .malformed
  | c :: rest => do
    let (p, before) ← p.pass before c rest.head?
    passAll p before rest

end Place

/-- The lines of a document.  As to quotes, the end of the text counts as what stands in front of
its first character. -/
def lines (text : List Char) : Except Fault (List (List Char)) := do
  let passed ← Place.start.passAll text.reverse text
  return pieces ['\n'] (passed.take text.length).reverse

end SolidityLayout.Toml
