import Std.Data.TreeMap.Basic
import SolidityLayout.Ast.Forest
import SolidityLayout.Failure.Basic

/-!
# Indices of a forest

A forest is searched by the ids and by the source locations of its nodes.  Of several nodes with one
id the first one counts, and each of the others is noted.  Of several nodes at one location the last
one counts, because it lies further inside the source text.
-/

namespace SolidityLayout.Ast

/-- The nodes of a forest by id and by source location. -/
structure Index where
  byId : Std.TreeMap Int Occurrence
  byLocation : Std.TreeMap Location Occurrence

namespace Index

/-- Enter a node under its id.  An id that has a node already keeps it, and that is noted. -/
def enterId (index : Std.TreeMap Int Occurrence) (o : Occurrence) :
    Except Failure (Std.TreeMap Int Occurrence) :=
  match o.node.id? with
  | none => .ok index
  | some id =>
    if index.contains id then noting (Number.isShowable id) (.ok index)
    else .ok (index.insert id o)

/-- The first node of each id. -/
def firstById (nodes : List Occurrence) : Except Failure (Std.TreeMap Int Occurrence) :=
  nodes.foldlM enterId ∅

/-- Enter a node under its location, in place of one that is there. -/
def enterLocation (index : Std.TreeMap Location Occurrence) (o : Occurrence) :
    Std.TreeMap Location Occurrence :=
  match o.node.location? with
  | some location => index.insert location o
  | none => index

/-- The last node of each location. -/
def lastByLocation (nodes : List Occurrence) : Std.TreeMap Location Occurrence :=
  nodes.foldl enterLocation ∅

/-- The index of a forest. -/
def ofForest (trees : List Node) : Except Failure Index :=
  let nodes := Forest.nodes trees
  (firstById nodes).map fun byId => ⟨byId, lastByLocation nodes⟩

/-- The node that an id refers to. -/
def withId? (index : Index) (id : Int) : Option Node :=
  (index.byId.get? id).map (·.node)

/-- The node at a location. -/
def atLocation? (index : Index) (location : Location) : Option Node :=
  (index.byLocation.get? location).map (·.node)

end Index

end SolidityLayout.Ast
