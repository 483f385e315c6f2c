import SolidityLayout.Ast.Forest

/-!
# Visits in pre-order

Visiting the pending trees of a list goes through the listings of the trees one
after the other.  The children of a node are put in front of what is pending, so
that their listings come between the node and the trees that follow it.
-/

namespace SolidityLayout.Ast.Forest

/-- The listings of trees at consecutive places are those of the single trees. -/
theorem preorderOfAll_eq_flatMap (place : Place) (nodes : List Node) (first : Nat) :
    preorderOfAll place nodes first =
      (Occurrence.numbered place nodes first).flatMap fun o => preorder o.place o.node := by
  induction nodes generalizing first with
  | nil => rfl
  | cons n rest ih =>
      rw [preorderOfAll, ih, Occurrence.numbered, Occurrence.numbered, List.zipIdx_cons,
        List.map_cons, List.flatMap_cons]

theorem preorder_eq (o : Occurrence) :
    preorder o.place o.node = o :: o.below.flatMap fun p => preorder p.place p.node := by
  obtain ⟨place, node⟩ := o
  cases node with
  | mk header children => exact congrArg _ (preorderOfAll_eq_flatMap place children 0)

/-- The visit of pending trees goes through their listings in order. -/
theorem visit_eq_flatMap (pending : List Occurrence) :
    visit pending = pending.flatMap fun o => preorder o.place o.node := by
  induction pending using visit.induct with
  | case1 =>
      rw [visit]
      rfl
  | case2 o pending ih =>
      rw [visit, ih, List.flatMap_append, List.flatMap_cons, preorder_eq o]
      rfl

/-- The nodes of a forest are visited in pre-order. -/
theorem nodes_eq_preorderOfAll (trees : List Node) :
    nodes trees = preorderOfAll [] trees 0 := by
  rw [nodes, visit_eq_flatMap, roots, preorderOfAll_eq_flatMap]

end SolidityLayout.Ast.Forest
