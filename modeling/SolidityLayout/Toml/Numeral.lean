import SolidityLayout.Toml.Value

/-!
# Numbers of TOML documents

An integer is written in base ten, or in base sixteen, eight or two behind a zero and a letter.  A
floating-point number has a point or an exponent, or is one of the words `inf` and `nan`.  Low lines
are dropped before a number is read.  Whether its spelling is tidy is a question of its own: then
there are no leading zeros, low lines stand between digits only, and a base goes without a sign.
-/

namespace SolidityLayout.Toml.Numeral

open Number Text

/-- The value of an ASCII digit in a base up to ten. -/
def smallDigit? (base : Nat) (c : Char) : Option Nat :=
  if '0' ≤ c ∧ c.toNat < '0'.toNat + base then some (c.toNat - '0'.toNat) else none

/-- A text with the digits of every script written in ASCII. -/
def plain (cs : List Char) : List Char :=
  cs.map fun c => ((digitValue? c).map fun d => Char.ofNat ('0'.toNat + d)).getD c

/-- The sign of a number, whether it is negative, and what follows it. -/
def splitSign : List Char → Bool × List Char
  | '-' :: rest => (true, rest)
  | '+' :: rest => (false, rest)
  | cs => (false, cs)

/-- A text in lower case. -/
def lowered (cs : List Char) : String :=
  String.ofList (cs.map Char.toLower)

/-- Whether a text is one of the words for numbers that are not finite. -/
def isWord (cs : List Char) : Bool :=
  ["inf", "nan"].contains (lowered cs)

/-! ## Tidy spellings -/

/-- Whether a text is a row of digits, with single low lines between them. -/
def isGrouped (digit? : Char → Option Nat) (cs : List Char) : Bool :=
  (groupedDigits? digit? cs).isSome

/-- Whether a text is a tidy exponent, or empty. -/
def isTidyExponent : List Char → Bool
  | [] => true
  | letter :: rest =>
    (letter == 'e' || letter == 'E') && isGrouped (smallDigit? 10) (splitSign rest).2

/-- Whether a character can stand between the sign, the point and the exponent of a number. -/
def isRowCharacter (c : Char) : Bool :=
  isDigit c || c == '_'

/-- Whether what follows the digits of a tidy number may do so: a fraction and an exponent. -/
def isTidyTail : List Char → Bool
  | '.' :: rest =>
    isGrouped (smallDigit? 10) (rest.takeWhile isRowCharacter) &&
      isTidyExponent (rest.dropWhile isRowCharacter)
  | rest => isTidyExponent rest

/-- Whether an unsigned number in base ten is tidy. -/
def isTidyDecimal (cs : List Char) : Bool :=
  let whole := cs.takeWhile isRowCharacter
  isGrouped (smallDigit? 10) whole && (whole == ['0'] || whole.head? != some '0') &&
    isTidyTail (cs.dropWhile isRowCharacter)

/-- Whether the spelling of a number is tidy. -/
def isTidy (cs : List Char) : Bool :=
  match cs with
  | '0' :: 'x' :: rest => isGrouped hexDigitValue? rest
  | '0' :: 'o' :: rest => isGrouped (smallDigit? 8) rest
  | '0' :: 'b' :: rest => isGrouped (smallDigit? 2) rest
  | _ => isWord (splitSign cs).2 || isTidyDecimal (splitSign cs).2

/-! ## Values -/

/-- The number that a row of digits denotes. -/
def rowValue? (base : Nat) (digit? : Char → Option Nat) (row : List Char) : Option Nat :=
  if row.isEmpty then none else (row.mapM digit?).map (ofDigits base)

/-- An integer in base ten keeps to the digit limit and has no leading zeros, unless it is zero. -/
def decimalValue? (row : List Char) : Option Nat :=
  if row.length ≤ digitLimit ∧ (row.head? ≠ some '0' ∨ row.all (· == '0')) then
    rowValue? 10 (smallDigit? 10) row
  else none

/-- An unsigned integer in any base. -/
def magnitude? : List Char → Option Nat
  | '0' :: letter :: rest =>
    if letter = 'x' ∨ letter = 'X' then rowValue? 16 hexDigitValue? rest
    else if letter = 'o' ∨ letter = 'O' then rowValue? 8 (smallDigit? 8) rest
    else if letter = 'b' ∨ letter = 'B' then rowValue? 2 (smallDigit? 2) rest
    else decimalValue? ('0' :: letter :: rest)
  | row => decimalValue? row

/-- An integer between blanks, with a sign or without. -/
def integer? (cs : List Char) : Option Int :=
  let (negative, row) := splitSign (plain (trim isLiteralBlank cs))
  (magnitude? row).map fun n => if negative then -(n : Int) else n

/-- The exponent of a floating-point number with its letter; none at all counts as zero. -/
def exponent? : List Char → Option Int
  | [] => some 0
  | letter :: rest =>
    if letter = 'e' ∨ letter = 'E' then
      let (negative, row) := splitSign rest
      (rowValue? 10 (smallDigit? 10) row).map fun n => if negative then -(n : Int) else n
    else none

/-- A floating-point number without sign, in ASCII: digits, a point among them or not, and an
exponent or not. -/
def unsignedFloat? (negative : Bool) (cs : List Char) : Option Binary64 := do
  let whole := cs.takeWhile isDigit
  let (fraction, rest) : List Char × List Char :=
    match cs.dropWhile isDigit with
    | '.' :: rest => (rest.takeWhile isDigit, rest.dropWhile isDigit)
    | rest => ([], rest)
  let digits ← rowValue? 10 (smallDigit? 10) (whole ++ fraction)
  return .ofDecimal negative digits ((← exponent? rest) - fraction.length)

/-- Zero has no sign. -/
def withoutNegativeZero (x : Binary64) : Binary64 :=
  if x.isZero then .zero false else x

/-- The value of a word for a number that is not finite. -/
def wordValue (negative : Bool) (cs : List Char) : Binary64 :=
  if lowered cs = "inf" then .infinite negative else .nan

/-- Whether a number is written as a floating-point number, by a point or an exponent. -/
def hasPointOrExponent (cs : List Char) : Bool :=
  cs.contains '.' || (!cs.contains 'x' && (cs.contains 'e' || cs.contains 'E'))

/-- A floating-point number with a digit in front and one behind its point, if there is a point. -/
def float? (negative : Bool) (cs : List Char) : Option Binary64 := do
  guard (cs.dropWhile (· != '.') != ['.'])
  guard (cs.head?.any isDigit)
  return withoutNegativeZero (← unsignedFloat? negative (plain cs))

/-- The value of a number. -/
def value? (cs : List Char) : Option Value :=
  let (negative, rest) := splitSign cs
  let rest := rest.filter (· != '_')
  if hasPointOrExponent rest then (float? negative rest).map .float
  else if isWord rest then some (.float (wordValue negative rest))
  else (integer? rest).map fun n => .int (if negative then -n else n)

/-! ## Complete floating-point numbers -/

/-- Whether every low line of a text stands between two digits; `previous` is the character in front
of the text. -/
def separatesDigits (previous : Char) : List Char → Bool
  | [] => previous != '_'
  | c :: rest =>
    (if c == '_' then isDigit previous else previous != '_' || isDigit c) && separatesDigits c rest

/-- Whether a text is a floating-point number in a liberal spelling: between blanks, in digits of
any script, and with `infinity` as a further word. -/
def isLiberalFloat (cs : List Char) : Bool :=
  let (_, rest) := splitSign (plain (trim isLiteralBlank cs))
  isWord rest || lowered rest == "infinity" ||
    (separatesDigits ' ' rest && (unsignedFloat? false (rest.filter (· != '_'))).isSome)

end SolidityLayout.Toml.Numeral
