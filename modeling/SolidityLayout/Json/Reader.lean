import SolidityLayout.Json.Numeral
import SolidityLayout.Text.HexDigit
import SolidityLayout.Text.Surrogate

/-!
# Reading JSON text

The text is cut into tokens one at a time, and a pushdown automaton puts the values together: its
stack holds the lists and objects that are still open.  The reading is strict, but for the constants
`NaN`, `Infinity` and `-Infinity`, which denote floating-point values.  A text fails at its first
fault, which is either a character out of place or an integer beyond a given digit limit.
-/

namespace SolidityLayout.Json

open Number Text

/-- Why a text could not be read. -/
inductive ReadFault
  | malformed
  | longNumber
  deriving DecidableEq, Repr

/-- The words of the format. -/
inductive Token
  | openList | closeList | openObject | closeObject | colon | comma
  | text (s : String)
  | constant (value : Json)
  | number (n : Numeral)

namespace Token

/-- The blanks between tokens. -/
def isSeparator (c : Char) : Bool :=
  c == ' ' || c == '\t' || c == '\n' || c == '\r'

/-- The constants and their values. -/
def constants : List (String × Json) :=
  [("null", .null), ("true", .bool true), ("false", .bool false), ("NaN", .float .nan),
   ("Infinity", .float (.infinite false)), ("-Infinity", .float (.infinite true))]

/-- The code unit that four hexadecimal digits denote. -/
def codeUnit? (a b c d : Char) : Option Nat := do
  let digits ← [a, b, c, d].mapM hexDigitValue?
  return ofDigits 16 digits

/-- The code unit of a one-character escape. -/
def shortEscape? : Char → Option Nat
  | '"' => some '"'.toNat
  | '\\' => some '\\'.toNat
  | '/' => some '/'.toNat
  | 'b' => some 8
  | 'f' => some 12
  | 'n' => some 10
  | 'r' => some 13
  | 't' => some 9
  | _ => none

/-- Read the inside of a text up to its closing quote.  Answers the code points and code units, last
one first, and the number of characters taken, the quote included. -/
def scanText? (units : List Nat) (size : Nat) : List Char → Option (List Nat × Nat)
  | [] => none
  | '"' :: _ => some (units, size + 1)
  | '\\' :: 'u' :: a :: b :: c :: d :: rest =>
    match codeUnit? a b c d with
    | some unit => scanText? (unit :: units) (size + 6) rest
    | none => none
  | '\\' :: e :: rest =>
    match shortEscape? e with
    | some unit => scanText? (unit :: units) (size + 2) rest
    | none => none
  | c :: rest => if c.toNat < 0x20 then none else scanText? (c.toNat :: units) (size + 1) rest

/-- Join surrogate pairs and keep what comes of it; the code units come last one first.  Half a pair
is kept as such. -/
def joinPairs (done : List Char) : List Nat → List Char
  | [] => done
  | [unit] => keep unit ++ done
  | low :: high :: rest =>
    if isLowSurrogate low && isHighSurrogate high then
      joinPairs (keep ((high - 0xD800) * 1024 + (low - 0xDC00) + 0x10000) ++ done) rest
    else joinPairs (keep low ++ done) (high :: rest)

/-- Read the token that starts with a given character.  Also answers how many of the characters
behind the first one belong to it. -/
def scan? (c : Char) (rest : List Char) : Option (Token × Nat) :=
  match c with
  | '[' => some (.openList, 0)
  | ']' => some (.closeList, 0)
  | '\x7b' => some (.openObject, 0)
  | '\x7d' => some (.closeObject, 0)
  | ':' => some (.colon, 0)
  | ',' => some (.comma, 0)
  | '"' => (scanText? [] 0 rest).map fun (units, size) =>
      (.text (String.ofList (joinPairs [] units)), size)
  | _ =>
    match constants.find? fun entry => entry.1.toList.isPrefixOf (c :: rest) with
    | some (word, value) => some (.constant value, word.length - 1)
    | none => (Numeral.scan? (c :: rest)).map fun (n, size) => (.number n, size - 1)

end Token

/-- A list or object that is still open: what is in it so far, last one first. -/
inductive Frame
  | list (items : List Json)
  | object (pairs : List (String × Json))
  | member (pairs : List (String × Json)) (key : String)

/-- What the automaton waits for. -/
inductive Expected
  | value
  | itemOrClose
  | keyOrClose
  | key
  | colon (key : String)
  | commaOrClose
  | nothing (result : Json)

/-- A state of the automaton. -/
structure ReadState where
  expected : Expected
  stack : List Frame

namespace ReadState

/-- The state before the first token. -/
def start : ReadState := ⟨.value, []⟩

/-- Go on with a value that is complete. -/
def complete (v : Json) : List Frame → ReadState
  | .list items :: stack => ⟨.commaOrClose, .list (v :: items) :: stack⟩
  | .member pairs key :: stack => ⟨.commaOrClose, .object ((key, v) :: pairs) :: stack⟩
  | stack => ⟨.nothing v, stack⟩

/-- The list in which the given items stand last one first. -/
def closedList (items : List Json) : Json :=
  .arr items.reverse

/-- The object in which the given pairs stand last one first. -/
def closedObject (pairs : List (String × Json)) : Json :=
  .obj (Members.ofPairs pairs.reverse)

/-- Go on with the first token of a value. -/
def stepValue (limit : Option Nat) (stack : List Frame) : Token → Except ReadFault ReadState
  | .openList => .ok ⟨.itemOrClose, .list [] :: stack⟩
  | .openObject => .ok ⟨.keyOrClose, .object [] :: stack⟩
  | .text s => .ok (complete (.str s) stack)
  | .constant v => .ok (complete v stack)
  | .number n =>
    match n.value? limit with
    | some v => .ok (complete v stack)
    | none => .error .longNumber
  | _ => .error .malformed

/-- Go on with one token. -/
def step (limit : Option Nat) (s : ReadState) (token : Token) : Except ReadFault ReadState :=
  match s.expected, token, s.stack with
  | .value, _, _ => stepValue limit s.stack token
  | .itemOrClose, .closeList, .list items :: stack => .ok (complete (closedList items) stack)
  | .itemOrClose, _, _ => stepValue limit s.stack token
  | .keyOrClose, .closeObject, .object pairs :: stack => .ok (complete (closedObject pairs) stack)
  | .keyOrClose, .text key, _ => .ok ⟨.colon key, s.stack⟩
  | .key, .text key, _ => .ok ⟨.colon key, s.stack⟩
  | .colon key, .colon, .object pairs :: stack => .ok ⟨.value, .member pairs key :: stack⟩
  | .commaOrClose, .comma, .list _ :: _ => .ok ⟨.value, s.stack⟩
  | .commaOrClose, .comma, .object _ :: _ => .ok ⟨.key, s.stack⟩
  | .commaOrClose, .closeList, .list items :: stack => .ok (complete (closedList items) stack)
  | .commaOrClose, .closeObject, .object pairs :: stack =>
    .ok (complete (closedObject pairs) stack)
  | _, _, _ => .error .malformed

/-- The value that was read, at the end of the text. -/
def result (s : ReadState) : Except ReadFault Json :=
  match s.expected with
  | .nothing v => .ok v
  | _ => .error .malformed

/-- Go on to the end of the text. -/
def run (limit : Option Nat) (s : ReadState) : List Char → Except ReadFault Json
  | [] => s.result
  | c :: rest =>
    if Token.isSeparator c then run limit s rest
    else
      match Token.scan? c rest with
      | none => .error .malformed
      | some (token, size) =>
        match s.step limit token with
        | .error fault => .error fault
        | .ok next => run limit next (rest.drop size)
termination_by cs => cs.length
decreasing_by all_goals simp only [List.length_cons, List.length_drop]; omega

end ReadState

/-- Read a text that holds one JSON value. -/
def read (limit : Option Nat) (text : List Char) : Except ReadFault Json :=
  ReadState.start.run limit text

end SolidityLayout.Json
