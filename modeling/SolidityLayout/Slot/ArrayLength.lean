import SolidityLayout.Failure.Basic

/-!
# Lengths of arrays

The length of an array of fixed size is a literal in the syntax tree: an integer, or a text in ASCII
that spells one in decimal or hexadecimal digits.
-/

namespace SolidityLayout

open Number Text Ast

namespace ArrayLength

/-- Whether a text is plain ASCII. -/
def isAscii (cs : List Char) : Bool :=
  cs.all (·.toNat < 0x80)

/-- The integer that the value of a literal spells. -/
def integer? : Json → Option Int
  | .int n => some n
  | .str text => if isAscii text.toList then literal? (strip text.toList) else none
  | _ => none

/-- The length that a value gives. -/
def ofValue (value : Json) : Except Failure Nat :=
  match integer? value with
  | none => .error (LayoutError.failure (.malformedTree (.lengthNotNumeric value)))
  | some (.ofNat length) => .ok length
  | some length => .error (LayoutError.failure (.malformedTree (.negativeLength length)))

/-- The length that a node gives. -/
def ofNode (node : Node) : Except Failure Nat :=
  if !node.isTagged "Literal" then
    .error (LayoutError.failure (.malformedTree (.lengthNotLiteral node)))
  else
    match node.attribute? "value" with
    | none | some .null => .error (LayoutError.failure (.malformedTree (.lengthWithoutValue node)))
    | some value => ofValue value

end ArrayLength

end SolidityLayout
