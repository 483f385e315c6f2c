import SolidityLayout.Contract.Ancestry
import SolidityLayout.Contract.Variables
import SolidityLayout.Slot.Classify

/-!
# Storage layouts

The layout of a contract lists its storage variables in the order of their slots: ancestor by
ancestor, the most basic one first, and within an ancestor in the order of declaration.  It is
computed as a whole; the first thing that fails is the failure of the layout.
-/

namespace SolidityLayout

open Ast

/-- A variable in storage: its name, the contract that declares it, and its type. -/
structure StorageVariable where
  name : String
  owner : String
  type : SlotType
  deriving DecidableEq, Repr

namespace StorageVariable

/-- The variable that a node inside the definition of `owner` declares. -/
def ofDeclaration (reader : TypeReader) (owner : String) (node : Node) :
    Except Failure StorageVariable :=
  match node.name? with
  | none => .error (LayoutError.failure (.malformedTree (.variableWithoutName owner node)))
  | some name => (SlotType.ofDeclaration reader node).map fun type => ⟨name, owner, type⟩

/-- The two lines that describe a variable whose type has the given text. -/
def describe (name owner type : String) : String :=
  name ++ " (" ++ owner ++ ")\n  Type: " ++ type

/-- The text of a variable, if its type can be shown. -/
def render (v : StorageVariable) : Except Failure String :=
  v.type.render.map (describe v.name v.owner)

end StorageVariable

/-- The layout of a contract. -/
structure Layout where
  /-- The contract's own name. -/
  contract? : Option String
  /-- The ids of the contract's ancestors, the most basic one first. -/
  ancestors : List Int
  contents : List StorageVariable

namespace Layout

/-- The storage variables that the contract with an id declares. -/
def variablesOf (lookup : NodeLookup) (reader : TypeReader) (id : Int) :
    Except Failure (List StorageVariable) :=
  match lookup.storageVariables id with
  | .error failure => .error failure
  | .ok (owner, nodes) => nodes.mapM (StorageVariable.ofDeclaration reader owner)

/-- The layout of the contract whose creation code comes from the given locations. -/
def ofLocations (lookup : NodeLookup) (reader : TypeReader) (locations : List Location) :
    Except Failure Layout :=
  match lookup.definition locations with
  | .error failure => .error failure
  | .ok contract =>
    match Ancestry.ofContract contract with
    | .error failure => .error failure
    | .ok ancestors =>
      (ancestors.mapM (variablesOf lookup reader)).map fun groups =>
        ⟨contract.name?, ancestors, groups.flatten⟩

/-- The texts of the variables in order, if all of them can be shown. -/
def render (layout : Layout) : Except Failure (List String) :=
  layout.contents.mapM StorageVariable.render

/-- The line that sums up a layout; a contract without ancestors has none. -/
def summary? (layout : Layout) : Option String :=
  let name := match layout.contract? with
    | none | some "" => "?"
    | some name => name
  if layout.ancestors.isEmpty then none
  else
    some (name ++ ": 继承链 " ++ shownInt layout.ancestors.length ++ " 个合约, " ++
      shownInt layout.contents.length ++ " 个存储变量")

/-- The texts of the variables of a contract in the order of their slots. -/
def texts (lookup : NodeLookup) (reader : TypeReader) (locations : List Location) :
    Except Failure (List String) :=
  match ofLocations lookup reader locations with
  | .error failure => .error failure
  | .ok layout => layout.render

end Layout

end SolidityLayout
