import SolidityLayout.Ast.Walk
import SolidityLayout.Proofs.Ast.Preorder
import SolidityLayout.Proofs.Ast.TreeOrder

/-!
# Traversals with a stack

The nodes of a forest are listed with a stack, tree by tree.  A step takes the tree on
top of the stack, lists its root and puts its children on the stack, the leftmost one on
top.  At any time it is left to list the trees on the stack, from the top down, and the
trees that have not been begun.

The trees come from JSON values.  Every value that stands somewhere in the forest is
listed once, as the node that it describes.
-/

namespace SolidityLayout.Ast

/-! ## Nodes that values describe -/

namespace Node

theorem ofList_eq_map (items : List Json) : ofList items = items.map ofJson := by
  induction items with
  | nil => rfl
  | cons v rest ih => rw [ofList, ih, List.map_cons]

theorem childrenIn_eq (members : Json.Members) :
    childrenIn members = ((members.get? "children").map ofItems).getD [] := by
  induction members with
  | nil => rfl
  | cons member rest ih =>
      obtain ⟨key, v⟩ := member
      rw [childrenIn, ih, Json.Members.get?, Json.Members.get?, List.lookup_cons, BEq.comm]
      cases "children" == key <;> rfl

/-- The children of the node that a value describes are described by the values listed
as its children. -/
theorem children_ofJson (v : Json) :
    (ofJson v).children = (listedChildren v).map ofJson := by
  cases v with
  | obj members =>
      change childrenIn members = _
      rw [childrenIn_eq, listedChildren, Json.members]
      cases Json.Members.get? members "children" with
      | none => rfl
      | some listed =>
          cases listed with
          | arr items => exact ofList_eq_map items
          | _ => rfl
  | _ => rfl

/-- What is no object describes a node without parts. -/
theorem ofJson_of_not_isObject {v : Json} (h : Arrival.isObject v = false) :
    ofJson v = .mk .empty [] := by
  cases v with
  | obj members => cases h
  | _ => rfl

end Node

theorem listedChildren_eq_nil {v : Json}
    (h : ∀ items, v.members.get? "children" ≠ some (.arr items)) : listedChildren v = [] := by
  rw [listedChildren]
  split
  · rename_i items hitems
    exact (h items hitems).elim
  · rfl

namespace Forest

open Occurrence

/-! ## Runs of the stack -/

/-- From trees that have not been begun and a stack of trees, its top at the end, a list
of nodes is listed until nothing is left. -/
inductive StackRun : List Occurrence → List Occurrence → List Occurrence → Prop
  | done : StackRun [] [] []
  | start {o : Occurrence} {trees listed : List Occurrence}
      (h : StackRun trees [o] listed) : StackRun (o :: trees) [] listed
  | step {o : Occurrence} {trees stack listed : List Occurrence}
      (h : StackRun trees (stack ++ o.below.reverse) listed) :
      StackRun trees (stack ++ [o]) (o :: listed)

variable {trees stack listed : List Occurrence}

/-- The trees on the stack are pending from the top down, before those not begun. -/
theorem StackRun.eq_visit (h : StackRun trees stack listed) :
    listed = visit (stack.reverse ++ trees) := by
  induction h with
  | done => rw [List.reverse_nil, List.nil_append, visit]
  | start _ ih => exact ih
  | @step o trees stack listed _ ih =>
      rw [ih, List.reverse_append, List.reverse_append, List.reverse_reverse,
        List.reverse_singleton, List.singleton_append, List.cons_append, visit,
        List.append_assoc]

theorem stackRun_visit (trees stack : List Occurrence) :
    StackRun trees stack (visit (stack.reverse ++ trees)) := by
  generalize hpending : stack.reverse ++ trees = pending
  induction pending using visit.induct generalizing trees stack with
  | case1 =>
      obtain ⟨hstack, rfl⟩ := List.append_eq_nil_iff.mp hpending
      obtain rfl := List.reverse_eq_nil_iff.mp hstack
      rw [visit]
      exact .done
  | case2 o pending ih =>
      rw [visit]
      -- With `o` on top of the stack, its children take its place there.
      have hstep : ∀ trees under, under.reverse ++ trees = pending →
          StackRun trees (under ++ [o]) (o :: visit (o.below ++ pending)) := by
        intro trees under hunder
        refine .step (ih trees (under ++ o.below.reverse) ?_)
        rw [List.reverse_append, List.reverse_reverse, List.append_assoc, hunder]
      cases stack using List.reverseRecOn with
      | nil =>
          obtain rfl : trees = o :: pending := hpending
          exact .start (hstep pending [] rfl)
      | append_singleton under top =>
          rw [List.reverse_append, List.reverse_singleton, List.singleton_append,
            List.cons_append] at hpending
          obtain ⟨rfl, hunder⟩ := List.cons.inj hpending
          exact hstep trees under hunder

/-- Whatever is on the stack, the run comes to an end, and it lists the trees on the
stack from the top down and then the trees that have not been begun. -/
theorem stackRun_iff :
    StackRun trees stack listed ↔
      listed = (stack.reverse ++ trees).flatMap fun o => preorder o.place o.node := by
  rw [← visit_eq_flatMap]
  constructor
  · exact StackRun.eq_visit
  · rintro rfl
    exact stackRun_visit trees stack

/-! ## Listings of values -/

/-- The listings of the trees that values describe, at consecutive places below a
node. -/
def listingsOf (place : Place) (values : List Json) : List Occurrence :=
  values.zipIdx.flatMap fun (v, i) => preorder (i :: place) (.ofJson v)

theorem flatMap_numbered_ofJson (place : Place) (values : List Json) :
    ((numbered place (values.map .ofJson) 0).flatMap fun o => preorder o.place o.node) =
      listingsOf place values := by
  rw [numbered, List.zipIdx_map, List.map_map, List.flatMap_map, listingsOf]
  rfl

theorem preorder_ofJson (place : Place) (v : Json) :
    preorder place (.ofJson v) =
      ⟨place, .ofJson v⟩ :: listingsOf place (listedChildren v) := by
  rw [← flatMap_numbered_ofJson, ← Node.children_ofJson]
  exact preorder_eq ⟨place, .ofJson v⟩

theorem nodes_ofJson (values : List Json) :
    nodes (values.map .ofJson) = listingsOf [] values := by
  rw [nodes, visit_eq_flatMap, roots, flatMap_numbered_ofJson]

/-! ## Places of values -/

/-- A value stands at a place of a forest of values: it is one of them, or one of the
children listed by the value at the place above. -/
inductive StandsAt (values : List Json) : Place → Json → Prop
  | root {i : Nat} {v : Json} (h : values[i]? = some v) : StandsAt values [i] v
  | child {place : Place} {i : Nat} {v w : Json} (h : StandsAt values place v)
      (hchild : (listedChildren v)[i]? = some w) : StandsAt values (i :: place) w

theorem mem_numbered_ofJson_iff {place : Place} {values : List Json} {o : Occurrence} :
    o ∈ numbered place (values.map .ofJson) 0 ↔
      ∃ i v, values[i]? = some v ∧ o = ⟨i :: place, .ofJson v⟩ := by
  rw [numbered, List.zipIdx_map, List.map_map, List.mem_map]
  constructor
  · rintro ⟨⟨v, i⟩, hmem, rfl⟩
    exact ⟨i, v, List.mem_zipIdx_iff_getElem?.mp hmem, rfl⟩
  · rintro ⟨i, v, hget, rfl⟩
    exact ⟨(v, i), List.mem_zipIdx_iff_getElem?.mpr hget, rfl⟩

variable {values : List Json} {o : Occurrence}

theorem StandsAt.mem_nodes {place : Place} {v : Json} (h : StandsAt values place v) :
    ⟨place, .ofJson v⟩ ∈ nodes (values.map .ofJson) := by
  induction h with
  | @root i v hget =>
      exact mem_nodes_iff.mpr ⟨_, mem_numbered_ofJson_iff.mpr ⟨i, v, hget, rfl⟩, .refl⟩
  | @child place i v w _ hchild ih =>
      have hbelow : (⟨i :: place, .ofJson w⟩ : Occurrence).IsChild ⟨place, .ofJson v⟩ := by
        rw [IsChild, Occurrence.below, Node.children_ofJson]
        exact mem_numbered_ofJson_iff.mpr ⟨i, w, hchild, rfl⟩
      exact mem_nodes_of_isBelow ih (.single hbelow)

theorem exists_standsAt_of_mem_nodes (h : o ∈ nodes (values.map .ofJson)) :
    ∃ v, StandsAt values o.place v ∧ o.node = .ofJson v := by
  obtain ⟨root, hroot, hbelow⟩ := mem_nodes_iff.mp h
  induction hbelow with
  | refl =>
      obtain ⟨i, v, hget, rfl⟩ := mem_numbered_ofJson_iff.mp hroot
      exact ⟨v, .root hget, rfl⟩
  | @tail p q hp hchild ih =>
      obtain ⟨v, hv, hnode⟩ := ih (mem_nodes_iff.mpr ⟨root, hroot, hp⟩)
      rw [IsChild, Occurrence.below, hnode, Node.children_ofJson] at hchild
      obtain ⟨i, w, hget, rfl⟩ := mem_numbered_ofJson_iff.mp hchild
      exact ⟨w, .child hv hget, rfl⟩

/-- The nodes are listed exactly at the places of the values. -/
theorem mem_nodes_ofJson_iff :
    o ∈ nodes (values.map .ofJson) ↔
      ∃ v, StandsAt values o.place v ∧ o.node = .ofJson v := by
  constructor
  · exact exists_standsAt_of_mem_nodes
  · rintro ⟨v, hv, hnode⟩
    have hmem := hv.mem_nodes
    rwa [← hnode] at hmem

/-- A traversal of any values with a stack comes to an end and yields the pre-order
listings of the values one after the other: the node that a value describes, then the
listings of the children that the value lists.  It passes every place of the values once;
what is no object is an empty node there, and no place lies below a value that does not
list its children. -/
theorem nodes_ofJson_outcome (values : List Json) :
    let listing := nodes (values.map .ofJson)
    (∀ listed, StackRun (roots (values.map .ofJson)) [] listed ↔ listed = listing) ∧
      listing = listingsOf [] values ∧
      (∀ place v, preorder place (.ofJson v) =
        ⟨place, .ofJson v⟩ :: listingsOf place (listedChildren v)) ∧
      (listing.map (·.place)).Nodup ∧
      (∀ o, o ∈ listing ↔ ∃ v, StandsAt values o.place v ∧ o.node = .ofJson v) ∧
      (∀ v, Arrival.isObject v = false → Node.ofJson v = .mk .empty []) ∧
      ∀ v, (∀ items, v.members.get? "children" ≠ some (.arr items)) →
        listedChildren v = [] ∧
          ∀ place, preorder place (.ofJson v) = [⟨place, .ofJson v⟩] := by
  intro listing
  refine ⟨?_, nodes_ofJson values, preorder_ofJson, nodup_place_nodes _,
    fun _ => mem_nodes_ofJson_iff, fun _ => Node.ofJson_of_not_isObject, ?_⟩
  · intro listed
    rw [stackRun_iff, ← visit_eq_flatMap]
    rfl
  · intro v hv
    have hlisted := listedChildren_eq_nil hv
    refine ⟨hlisted, fun place => ?_⟩
    rw [preorder_ofJson, hlisted]
    rfl

/-- An object that does not list its children, though it has a member for them. -/
def unlisted : Json :=
  .obj [("id", .int 2), ("children", .str "none")]

/-- Values of which two are no objects. -/
def raggedValues : List Json :=
  [.obj [("id", .int 1), ("children", .arr [.int 7, unlisted])], .null]

theorem nodes_ofJson_outcome_ragged :
    let listing := nodes (raggedValues.map .ofJson)
    StackRun (roots (raggedValues.map .ofJson)) [] listing ∧
      listing.map (·.place) = [[0], [0, 0], [1, 0], [1]] ∧
      ⟨[0, 0], .mk .empty []⟩ ∈ listing ∧
      preorder [1, 0] (.ofJson unlisted) = [⟨[1, 0], .ofJson unlisted⟩] := by
  intro listing
  obtain ⟨hrun, hlisting, -, -, hmem, hempty, hleaf⟩ := nodes_ofJson_outcome raggedValues
  have hplaces : (nodes (raggedValues.map .ofJson)).map (·.place) =
      [[0], [0, 0], [1, 0], [1]] := by
    rw [hlisting]
    rfl
  have hnumber : StandsAt raggedValues [0, 0] (.int 7) := .child (.root rfl) rfl
  have hget : unlisted.members.get? "children" = some (.str "none") := rfl
  have hunlisted : ∀ items, unlisted.members.get? "children" ≠ some (.arr items) := by
    intro items
    simp [hget]
  exact ⟨(hrun listing).mpr rfl, hplaces,
    (hmem _).mpr ⟨.int 7, hnumber, (hempty _ rfl).symm⟩, (hleaf _ hunlisted).2 _⟩

end Forest

end SolidityLayout.Ast
