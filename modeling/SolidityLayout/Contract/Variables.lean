import SolidityLayout.Ast.Index
import SolidityLayout.Failure.Basic

/-!
# Definitions and variables of contracts

The first location in the source map of a contract's creation code is the range of the contract's
definition, and the node found there is noted.  The variables of a contract that take storage are
declared by children of the definition: variable declarations with a source location that are not
constant.
-/

namespace SolidityLayout

open Ast

/-- The two ways of finding a node in a forest. -/
structure NodeLookup where
  withId? : Int → Option Node
  atLocation? : Location → Option Node

/-- Finding nodes with an index. -/
def Ast.Index.lookup (index : Index) : NodeLookup :=
  ⟨index.withId?, index.atLocation?⟩

/-- Whether a node declares a variable that takes storage. -/
def isStorageVariable (node : Node) : Bool :=
  node.isTagged "VariableDeclaration" && node.hasSource &&
    match node.attribute? "constant" with
    | some (.bool true) => false
    | _ => true

namespace NodeLookup

/-- The definition of the contract whose creation code comes from the given locations. -/
def definition (lookup : NodeLookup) (locations : List Location) : Except Failure Node :=
  match locations with
  | [] => .error (.layout (.missingDefinition .emptySourceMap))
  | location :: _ =>
    match lookup.atLocation? location with
    | some node => noting node.isShowable (.ok node)
    | none => .error (LayoutError.failure (.missingDefinition (.noNodeAt location)))

/-- The name of the contract with an id, and the declarations of its storage variables in order. -/
def storageVariables (lookup : NodeLookup) (id : Int) : Except Failure (String × List Node) :=
  match lookup.withId? id with
  | none => .error (LayoutError.failure (.missingNode id))
  | some contract =>
    match contract.name? with
    | none => .error (LayoutError.failure (.malformedTree (.contractWithoutName id)))
    | some owner => .ok (owner, contract.children.filter isStorageVariable)

end NodeLookup

end SolidityLayout
