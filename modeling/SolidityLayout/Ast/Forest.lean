import SolidityLayout.Ast.Node

/-!
# Forests of syntax trees

A forest is a list of trees.  Its nodes are told apart by their place, the turns that lead to them.
The nodes are visited in pre-order, a node before the nodes below it and these from left to right,
with a list of the places that are still to be visited.
-/

namespace SolidityLayout.Ast

/-- Where a node stands in a forest: the number of the child taken at each turn, the last turn
first. The first turn, which comes last, chooses the tree. -/
abbrev Place := List Nat

/-- A node at its place in a forest. -/
structure Occurrence where
  place : Place
  node : Node

namespace Node

mutual

/-- The number of nodes of a tree. -/
def size : Node → Nat
  | mk _ children => 1 + sizeOfAll children
termination_by structural n => n

/-- The number of nodes of several trees. -/
def sizeOfAll : List Node → Nat
  | [] => 0
  | n :: rest => size n + sizeOfAll rest
termination_by structural nodes => nodes

end

theorem size_eq (n : Node) : n.size = 1 + sizeOfAll n.children := by
  cases n
  simp only [size, children]

theorem sizeOfAll_append (front back : List Node) :
    sizeOfAll (front ++ back) = sizeOfAll front + sizeOfAll back := by
  induction front with
  | nil => simp [sizeOfAll]
  | cons n rest ih => simp only [List.cons_append, sizeOfAll, ih, Nat.add_assoc]

end Node

namespace Occurrence

/-- Subtrees at consecutive places below a node, counted from a given child on. -/
def numbered (place : Place) (nodes : List Node) (first : Nat) : List Occurrence :=
  (nodes.zipIdx first).map fun (node, i) => ⟨i :: place, node⟩

/-- The children of a node at their places. -/
def below (o : Occurrence) : List Occurrence :=
  numbered o.place o.node.children 0

theorem map_node_numbered (place : Place) (nodes : List Node) (first : Nat) :
    (numbered place nodes first).map (·.node) = nodes := by
  simp [numbered, Function.comp_def]

end Occurrence

namespace Forest

/-- The trees of a forest at their places. -/
def roots (trees : List Node) : List Occurrence :=
  Occurrence.numbered [] trees 0

/-- Visit the nodes of the pending trees in pre-order. -/
def visit : List Occurrence → List Occurrence
  | [] => []
  | o :: pending => o :: visit (o.below ++ pending)
termination_by pending => Node.sizeOfAll (pending.map (·.node))
decreasing_by
  simp only [List.map_append, Occurrence.below, Occurrence.map_node_numbered, List.map_cons,
    Node.sizeOfAll, Node.sizeOfAll_append, Node.size_eq]
  omega

mutual

/-- The listing of a tree: the node itself, then the listings of its children from left to right. -/
def preorder (place : Place) : Node → List Occurrence
  | .mk header children => ⟨place, .mk header children⟩ :: preorderOfAll place children 0
termination_by structural n => n

/-- The listings of trees at consecutive places below a node, one after the other. -/
def preorderOfAll (place : Place) : List Node → Nat → List Occurrence
  | [], _ => []
  | n :: rest, i => preorder (i :: place) n ++ preorderOfAll place rest (i + 1)
termination_by structural nodes => nodes

end

/-- All nodes of a forest in the order of visits. -/
def nodes (trees : List Node) : List Occurrence :=
  visit (roots trees)

end Forest

end SolidityLayout.Ast
