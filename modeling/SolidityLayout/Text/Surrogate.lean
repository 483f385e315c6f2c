/-!
# Halves of surrogate pairs

JSON text and settings files can name the code points U+D800 to U+DFFF one at a time.  They are the
halves of surrogate pairs and no characters.  A text keeps such a half by a stand-in, the code point
0x50000 above it; nothing is assigned there, so that a stand-in belongs to the same classes of
characters as the half does.  Where the character at that code point is meant itself, a mark stands
in front of it, and so no two lists of code points are kept as the same text.  Whatever writes code
points, by themselves or in digits, writes those that a text keeps.
-/

namespace SolidityLayout.Text

/-- Whether a code point opens a surrogate pair. -/
def isHighSurrogate (code : Nat) : Bool :=
  0xD800 ≤ code && code < 0xDC00

/-- Whether a code point closes a surrogate pair. -/
def isLowSurrogate (code : Nat) : Bool :=
  0xDC00 ≤ code && code < 0xE000

/-- Whether a code point is half a surrogate pair. -/
def isSurrogate (code : Nat) : Bool :=
  isHighSurrogate code || isLowSurrogate code

/-- The distance between a half and its stand-in. -/
def standInOffset : Nat := 0x50000

/-- Whether a character is a stand-in, unless it is marked. -/
def isStandIn (c : Char) : Bool :=
  standInOffset ≤ c.toNat && isSurrogate (c.toNat - standInOffset)

/-- The mark of a character that is meant itself, the code point behind the stand-ins. -/
def ownMark : Char :=
  Char.ofNat (standInOffset + 0xE000)

/-- A code point below U+110000 as a text keeps it. -/
def keep (code : Nat) : List Char :=
  let c := Char.ofNat code
  if isSurrogate code then [Char.ofNat (code + standInOffset)]
  else if isStandIn c || c == ownMark then [ownMark, c]
  else [c]

/-- The code point that a character keeps if it is not marked. -/
def keptCode (c : Char) : Nat :=
  if isStandIn c then c.toNat - standInOffset else c.toNat

/-- The code points that a text keeps. -/
def keptCodes : List Char → List Nat
  | [] => []
  | [c] => [keptCode c]
  | c :: own :: rest =>
    if c == ownMark then own.toNat :: keptCodes rest else keptCode c :: keptCodes (own :: rest)

/-- A text of characters as it is kept. -/
def kept (cs : List Char) : List Char :=
  cs.flatMap fun c => keep c.toNat

/-- Whether a text keeps characters only, so that it can be written in UTF-8. -/
def isEncodable (s : String) : Bool :=
  (keptCodes s.toList).all fun code => !isSurrogate code

end SolidityLayout.Text
