import SolidityLayout.Ast.Forest

/-!
# Walks to a node

A walk leads from a JSON value down through the children that it lists.  Two walks arrive at the
same node when they take the same turns and end at an object: what is no object describes no node
of its own, so every walk to it finds a different, empty one.
-/

namespace SolidityLayout.Ast

/-- The values listed as the children of a value. -/
def listedChildren (v : Json) : List Json :=
  match v.members.get? "children" with
  | some (.arr items) => items
  | _ => []

/-- The child with a given number; a negative number counts from the end. -/
def childNumber? (count : Nat) (i : Int) : Option Nat :=
  let n := if i < 0 then i + count else i
  if 0 ≤ n ∧ n < count then some n.toNat else none

/-- Where a walk arrives: its place and the value there. -/
structure Arrival where
  place : Place
  value : Json

/-- Take the turns of a walk one after the other. -/
def walk? (start : Arrival) : List Int → Option Arrival
  | [] => some start
  | i :: turns =>
    let children := listedChildren start.value
    match childNumber? children.length i with
    | none => none
    | some n =>
      match children[n]? with
      | none => none
      | some child => walk? ⟨n :: start.place, child⟩ turns

namespace Arrival

/-- Whether a value is an object. -/
def isObject : Json → Bool
  | .obj _ => true
  | _ => false

/-- Whether two walks from one node arrive at the same node. -/
def isSameNode (a b : Arrival) : Bool :=
  a.place == b.place && (a.place.isEmpty || isObject a.value)

end Arrival

end SolidityLayout.Ast
