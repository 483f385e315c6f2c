import SolidityLayout.Text.Printable
import SolidityLayout.Text.Surrogate

/-!
# Quoted text

Messages show a text between quotes.  Single quotes are used unless the text holds a single quote
and no double quote.  The quote in use and the backslash get a backslash; line feed, carriage return
and tab have short escapes; any other character that is not printable is written by its code point
in two, four or eight hexadecimal digits.
-/

namespace SolidityLayout.Text

/-- A number in lower-case hexadecimal digits, filled up with zeros to a given width. -/
def hexPadded (width n : Nat) : List Char :=
  let digits := Nat.toDigits 16 n
  List.replicate (width - digits.length) '0' ++ digits

/-- The quote that encloses a text. -/
def enclosingQuote (cs : List Char) : Char :=
  if cs.contains '\'' && !cs.contains '"' then '"' else '\''

/-- A code point in hexadecimal digits. -/
def codeEscape (code : Nat) : List Char :=
  if code < 0x100 then '\\' :: 'x' :: hexPadded 2 code
  else if code < 0x10000 then '\\' :: 'u' :: hexPadded 4 code
  else '\\' :: 'U' :: hexPadded 8 code

/-- A text in characters alone, with halves of surrogate pairs in digits. -/
def plain (s : String) : String :=
  String.ofList <| (keptCodes s.toList).flatMap fun code =>
    if isSurrogate code then codeEscape code else [Char.ofNat code]

/-- One code point as it stands between the given quotes. -/
def quotedCode (quote : Char) (code : Nat) : List Char :=
  let c := Char.ofNat code
  if isSurrogate code then codeEscape code
  else if c == quote || c == '\\' then ['\\', c]
  else if c == '\n' then ['\\', 'n']
  else if c == '\r' then ['\\', 'r']
  else if c == '\t' then ['\\', 't']
  else if isPrintable c then [c]
  else codeEscape code

/-- A text between quotes. -/
def quoted (s : String) : String :=
  let quote := enclosingQuote s.toList
  String.ofList (quote :: ((keptCodes s.toList).flatMap (quotedCode quote) ++ [quote]))

end SolidityLayout.Text
