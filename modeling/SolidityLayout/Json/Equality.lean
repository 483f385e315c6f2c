import SolidityLayout.Json.Basic

/-!
# Equality of JSON values

Two values are alike when they denote the same thing: numbers are compared by value, whatever
their form, where true and false count as one and zero, and objects are compared without regard to
the order of their members.  A value that is not a number is like nothing.
-/

namespace SolidityLayout

open Number

namespace Number.Binary64

/-- Whether a number has the value of an integer. -/
def isInteger (n : Int) : Binary64 → Bool
  | finite negative mantissa exponent _ =>
    let (num, den) := quotient mantissa exponent
    n * den == (if negative then -(num : Int) else num)
  | _ => false

/-- Whether two numbers have the same value. -/
def isSameValue : Binary64 → Binary64 → Bool
  | nan, _ | _, nan => false
  | a, b => a == b || (a.isZero && b.isZero)

end Number.Binary64

namespace Json

/-- The integer for which a constant or an integer counts in a comparison. -/
def countsAs? : Json → Option Int
  | .bool b => some (if b then 1 else 0)
  | .int n => some n
  | _ => none

/-- Whether two values that are neither lists nor objects are alike. -/
def isSameScalar (a b : Json) : Bool :=
  match a, b with
  | .null, .null => true
  | .str s, .str t => s == t
  | .float x, .float y => x.isSameValue y
  | .float x, v => v.countsAs?.any x.isInteger
  | v, .float x => v.countsAs?.any x.isInteger
  | a, b => a.countsAs?.isSome && a.countsAs? == b.countsAs?

mutual

/-- Whether two values are alike. -/
def isAlike : Json → Json → Bool
  | .arr items, b =>
    match b with
    | .arr others => areAlike items others
    | _ => false
  | .obj members, b =>
    match b with
    | .obj others => members.length == others.length && areMembersAlike members others
    | _ => false
  | a, b => isSameScalar a b
termination_by structural a => a

/-- Whether two lists are alike item by item. -/
def areAlike : List Json → List Json → Bool
  | [], others => others.isEmpty
  | v :: rest, others =>
    match others with
    | [] => false
    | w :: others => isAlike v w && areAlike rest others
termination_by structural items => items

/-- Whether every member has a member of the same key that is like it. -/
def areMembersAlike : List (String × Json) → Members → Bool
  | [], _ => true
  | (key, v) :: rest, others =>
    (match others.get? key with
      | some w => isAlike v w
      | none => false) && areMembersAlike rest others
termination_by structural members => members

end

end Json

end SolidityLayout
