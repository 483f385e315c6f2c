/-!
# Blank characters

What counts as blank around and between words, in every script, and the two operations that the
readers of this library need: taking the blanks off both ends, and taking the first word.  Both only
ever shorten a text, which is what lets the readers recurse on what is left.
-/

namespace SolidityLayout.Text

/-- Whether a character separates words: the white space of Unicode and the four ASCII separators.
-/
def isBlank (c : Char) : Bool :=
  let n := c.toNat
  (0x09 ≤ n && n ≤ 0x0D) || (0x1C ≤ n && n ≤ 0x20) || n == 0x85 || n == 0xA0 || n == 0x1680 ||
    (0x2000 ≤ n && n ≤ 0x200A) || n == 0x2028 || n == 0x2029 || n == 0x202F || n == 0x205F ||
    n == 0x3000

/-- Take the characters of a class off both ends. -/
def trim (drop : Char → Bool) (cs : List Char) : List Char :=
  ((cs.dropWhile drop).reverse.dropWhile drop).reverse

/-- Take the blanks off both ends. -/
def strip (cs : List Char) : List Char :=
  trim isBlank cs

/-- The first word, if there is one. -/
def firstWord? (cs : List Char) : Option (List Char) :=
  match (cs.dropWhile isBlank).takeWhile (!isBlank ·) with
  | [] => none
  | word => some word

theorem length_dropWhile_le (p : Char → Bool) (cs : List Char) :
    (cs.dropWhile p).length ≤ cs.length :=
  (List.dropWhile_sublist p).length_le

theorem length_trim_le (p : Char → Bool) (cs : List Char) : (trim p cs).length ≤ cs.length := by
  have inner := length_dropWhile_le p cs
  have outer := length_dropWhile_le p (cs.dropWhile p).reverse
  simp only [List.length_reverse] at outer
  simp only [trim, List.length_reverse]
  omega

theorem length_strip_le (cs : List Char) : (strip cs).length ≤ cs.length :=
  length_trim_le isBlank cs

end SolidityLayout.Text
