import SolidityLayout.Number.Binary64

/-!
# JSON values

The values of the JSON data format.  Integers of any size and floating-point numbers are told apart,
and the members of an object keep the order in which they were written.
-/

namespace SolidityLayout

open Number

/-- A JSON value. -/
inductive Json
  | null
  | bool (value : Bool)
  | int (value : Int)
  | float (value : Binary64)
  | str (value : String)
  | arr (items : List Json)
  | obj (members : List (String × Json))
  deriving Inhabited

namespace Json

/-- The members of an object, in order. -/
abbrev Members := List (String × Json)

/-- The value of the first member with a given key. -/
def Members.get? (members : Members) (key : String) : Option Json :=
  members.lookup key

/-- Whether some member has a given key. -/
def Members.has (members : Members) (key : String) : Bool :=
  (members.get? key).isSome

/-- Set a member: a new key goes to the end, a known key keeps its place and takes the new value. -/
def Members.insert (members : Members) (key : String) (value : Json) : Members :=
  if members.has key then members.map fun m => if m.1 = key then (key, value) else m
  else members ++ [(key, value)]

/-- The members of a list of pairs in which a later pair overrides an earlier one of the same key.
-/
def Members.ofPairs (pairs : List (String × Json)) : Members :=
  pairs.foldl (fun members pair => members.insert pair.1 pair.2) []

/-- The members of an object; other values have none. -/
def members : Json → Members
  | .obj members => members
  | _ => []

/-- Whether a value counts as given: not null, false, zero or empty. -/
def isTruthy : Json → Bool
  | .null => false
  | .bool b => b
  | .int n => n != 0
  | .float x => !x.isZero
  | .str s => s != ""
  | .arr items => !items.isEmpty
  | .obj members => !members.isEmpty

end Json

end SolidityLayout
