/-!
# Text of files

The text of a file is its bytes read as UTF-8.  Line ends may be written as a carriage return, a
line feed, or both in this order; they all count as a line feed.
-/

namespace SolidityLayout.Files

/-- Write every line end as a line feed. -/
def unifyLineEnds : List Char → List Char
  | [] => []
  | '\r' :: '\n' :: rest => '\n' :: unifyLineEnds rest
  | '\r' :: rest => '\n' :: unifyLineEnds rest
  | c :: rest => c :: unifyLineEnds rest

/-- The text of a file, unless its bytes are no text. -/
def text? (bytes : ByteArray) : Option (List Char) :=
  (String.fromUTF8? bytes).map fun s => unifyLineEnds s.toList

end SolidityLayout.Files
