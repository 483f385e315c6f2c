import SolidityLayout.Json.Basic
import SolidityLayout.Number.Literal

/-!
# Source locations

A location is a range of characters in a source file, given by its offset, its length and the number
of the file.  It is written as three integers with colons between them, and it is read from any
spelling of the three integers.
-/

namespace SolidityLayout

open Number

/-- A range of characters in a source file. -/
structure Location where
  offset : Int
  length : Int
  file : Int
  deriving DecidableEq, Repr

namespace Location

/-- Locations are ordered by offset, then by length, then by file. -/
def order : Location → Location → Ordering :=
  compareLex (compareOn offset) (compareLex (compareOn length) (compareOn file))

instance : Ord Location := ⟨order⟩

instance : Std.TransOrd Location :=
  inferInstanceAs
    (Std.TransCmp (compareLex (compareOn offset) (compareLex (compareOn length) (compareOn file))))

theorem eq_of_order_eq {a b : Location} (h : order a b = .eq) : a = b := by
  simp only [order, compareLex_eq_eq, compareOn, Std.LawfulEqCmp.compare_eq_iff_eq] at h
  cases a
  cases b
  simp_all

instance : Std.LawfulEqOrd Location where
  eq_of_compare := eq_of_order_eq

/-- The text of a location. -/
def text (l : Location) : String :=
  String.ofList (decimal l.offset ++ ':' :: (decimal l.length ++ ':' :: decimal l.file))

/-- Whether the three integers can be shown. -/
def isShowable (l : Location) : Bool :=
  Number.isShowable l.offset && Number.isShowable l.length && Number.isShowable l.file

/-- Read a location; a text of any other form is none. -/
def parse? (text : String) : Option Location :=
  match text.toList.splitOn ':' with
  | [offset, length, file] => do
    return ⟨← decimal? offset, ← decimal? length, ← decimal? file⟩
  | _ => none

/-- Read a location from a JSON value; only a text can be one. -/
def ofJson? : Json → Option Location
  | .str text => parse? text
  | _ => none

end Location

end SolidityLayout
