import SolidityLayout.Number.Decimal
import SolidityLayout.Text.HexDigit
import SolidityLayout.Text.Pieces
import SolidityLayout.Text.Surrogate
import SolidityLayout.Toml.Fault

/-!
# Quoted texts of TOML documents

A text stands between single or double quotes, or between three of either kind.  Between double
quotes there are escapes: a backslash and a letter, or a code point in four or eight hexadecimal
digits.  Code points are put in first, so that one of them can complete another escape.  The end
of a text is found by cutting it at its quotes; a text whose closing quote is missing loses its
last character instead.
-/

namespace SolidityLayout.Toml.QuotedText

open Number Text

/-! ## Where a text closes -/

/-- What is known about the end of a text while its pieces between quotes are passed. -/
structure Closing where
  closed : Bool
  /-- The number of quotes in a row that were just passed, in a text with three quotes. -/
  run : Nat

/-- Pass the next piece between two quotes.  A quote behind an odd number of backslashes does not
count; no piece may follow a text that is closed. -/
def Closing.pass (triple : Bool) (state : Closing) (piece : List Char) : Option Closing :=
  if piece.isEmpty then
    some (if triple then { state with run := state.run + 1 } else { state with closed := true })
  else if endsInOddBackslashes piece then some state
  else if state.closed then none
  else if !triple || 1 < state.run then some { state with closed := true }
  else some { state with run := 0 }

/-- Whether nothing follows the end of a text, given what stands behind its opening quote. -/
def endsProperly (quote : Char) (cs : List Char) : Bool :=
  let state : Closing := ⟨false, 0⟩
  match pieces [quote] cs with
  | [] :: [] :: rest => (rest.foldlM (Closing.pass true) state).isSome
  | parts => (parts.foldlM (Closing.pass false) state).isSome

/-! ## Escapes -/

/-- The characters of the escapes by one letter. -/
def shortEscapes : List (Char × Char) :=
  [('0', '\x00'), ('b', '\x08'), ('f', '\x0c'), ('n', '\n'), ('r', '\r'), ('t', '\t'), ('"', '"')]

/-- Whether every backslash in a text starts an escape, given the pieces behind the backslashes;
`escaped` says whether the piece follows a backslash that stands for itself. -/
def areEscapesKnown (escaped : Bool) : List (List Char) → Bool
  | [] => true
  | [] :: rest => areEscapesKnown (!escaped) rest
  | (c :: _) :: rest =>
    (escaped || c == 'u' || c == 'U' || (shortEscapes.lookup c).isSome) &&
      areEscapesKnown false rest

/-- The greatest number that is looked up among the code points at all. -/
def greatestCode : Nat := 0x7FFFFFFF

/-- What is put in for a code point in hexadecimal digits.  Four digits cannot name half a surrogate
pair. -/
def codePointOf (digits : List Char) : Except Fault (List Char) :=
  match digits.mapM hexDigitValue? with
  | none => .error .malformed
  | some [] => .error .nothingThere
  | some [13] => .error .nothingThere
  | some values =>
    let code := ofDigits 16 values
    if values.head? = some 13 ∧ 7 < values.getD 1 0 then .error .malformed
    else if greatestCode < code then .error .numberTooLarge
    else if 0x10FFFF < code then .error .malformed
    else .ok (keep code)

/-- Put in the code points that follow a mark, given the pieces of the text behind the marks; `done`
is the text so far, and `literal` says whether the backslash of the next mark stands for itself. -/
def putCodePoints (mark : List Char) (width : Nat) (done : List Char) (literal : Bool) :
    List (List Char) → Except Fault (List Char)
  | [] => .ok done
  | piece :: rest =>
    if literal then
      putCodePoints mark width (done ++ mark ++ piece) (endsInOddBackslashes piece) rest
    else do
      let own ← codePointOf (piece.take width)
      putCodePoints mark width (done ++ own ++ piece.drop width) false rest

/-- Put in all code points with a given mark. -/
def withCodePoints (mark : List Char) (width : Nat) (cs : List Char) : Except Fault (List Char) :=
  match pieces mark cs with
  | [] => .ok []
  | first :: rest => putCodePoints mark width first (endsInOddBackslashes first) rest

/-- Put in the characters for the escapes by one letter, and single backslashes for double ones. -/
def withoutEscapes : List Char → Except Fault (List Char)
  | [] => .ok []
  | '\\' :: [] => .ok ['\\']
  | '\\' :: c :: rest =>
    if c = 'u' ∨ c = 'U' then (withoutEscapes rest).map fun cs => '\\' :: c :: cs
    else if c = '\\' then (withoutEscapes rest).map (c :: ·)
    else
      match shortEscapes.lookup c with
      | some meant => (withoutEscapes rest).map (meant :: ·)
      | none => .error .malformed
  | c :: rest => (withoutEscapes rest).map (c :: ·)

/-- A text with its escapes put in, quotes included. -/
def unescaped (cs : List Char) : Except Fault (List Char) := do
  if !areEscapesKnown false ((pieces ['\\'] cs).drop 1) then .error .malformed
  else withoutEscapes (← withCodePoints ['\\', 'U'] 8 (← withCodePoints ['\\', 'u'] 4 cs))

/-! ## Reading -/

/-- The text between one quote on either side, or between three if there are three in front; two
quotes alone hold nothing. -/
def between (quote : Char) (cs : List Char) : List Char :=
  match cs with
  | [_, b] => if b == quote then [] else inside cs
  | _ :: b :: c :: _ => if b == quote && c == quote then inside (inside (inside cs)) else inside cs
  | _ => inside cs

/-- Read a text that starts with a given quote. -/
def read (quote : Char) (cs : List Char) : Except Fault (List Char) :=
  if !endsProperly quote (cs.drop 1) then .error .malformed
  else if quote = '"' then (unescaped cs).map (between quote)
  else .ok (between quote cs)

end SolidityLayout.Toml.QuotedText
