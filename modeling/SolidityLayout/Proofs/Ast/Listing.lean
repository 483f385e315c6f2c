import Mathlib.Data.List.Find
import Mathlib.Data.List.Forall2
import Mathlib.Data.List.Pairwise
import SolidityLayout.Proofs.Ast.Lookup

/-!
# Listings of trees

The listing of a tree holds its nodes in pre-order, without their places.  A
forest is visited in the order of the listings of its trees, so an id refers to
the first node of the listings that has it and a location to the last one.  What
an index finds is therefore known from the listings, and two indices are
compared by comparing them.  Whether there is an index at all depends on the ids
in the listings alone, and can be decided.
-/

namespace SolidityLayout.Ast

namespace Node

mutual

/-- The nodes of a tree in pre-order. -/
def listing : Node → List Node
  | mk header children => mk header children :: listingOfAll children
termination_by structural n => n

/-- The nodes of several trees, tree by tree. -/
def listingOfAll : List Node → List Node
  | [] => []
  | n :: rest => listing n ++ listingOfAll rest
termination_by structural nodes => nodes

end

theorem listingOfAll_eq_flatMap (nodes : List Node) :
    listingOfAll nodes = nodes.flatMap listing := by
  induction nodes with
  | nil => rfl
  | cons n rest ih => rw [listingOfAll, ih, List.flatMap_cons]

theorem listing_eq (n : Node) : n.listing = n :: n.children.flatMap listing := by
  cases n
  rw [listing, listingOfAll_eq_flatMap, children]

end Node

namespace Forest

theorem map_node_visit (pending : List Occurrence) :
    (visit pending).map (·.node) = (pending.map (·.node)).flatMap Node.listing := by
  induction pending using visit.induct with
  | case1 =>
      rw [visit]
      rfl
  | case2 o pending ih =>
      rw [visit, List.map_cons, ih, List.map_append, List.flatMap_append, Occurrence.below,
        Occurrence.map_node_numbered, List.map_cons, List.flatMap_cons, Node.listing_eq]
      rfl

theorem map_node_nodes (trees : List Node) :
    (nodes trees).map (·.node) = trees.flatMap Node.listing := by
  rw [nodes, map_node_visit, roots, Occurrence.map_node_numbered]

end Forest

theorem Node.mem_listing_iff {node tree : Node} :
    node ∈ tree.listing ↔ node.IsWithin tree := by
  constructor
  · intro h
    have hvisit := Forest.map_node_visit [⟨[], tree⟩]
    rw [List.map_singleton, List.flatMap_singleton] at hvisit
    rw [← hvisit] at h
    obtain ⟨o, ho, rfl⟩ := List.mem_map.mp h
    obtain ⟨p, hp, hwithin⟩ := Forest.isWithin_of_mem_visit ho
    obtain rfl := List.mem_singleton.mp hp
    exact hwithin
  · intro h
    induction h with
    | root => simp [listing_eq node]
    | @inChild child tree hchild _ ih =>
        rw [listing_eq tree]
        exact List.mem_cons_of_mem _ (List.mem_flatMap.mpr ⟨child, hchild, ih⟩)

theorem Forest.mem_listing_iff {trees : List Node} {node : Node} :
    node ∈ trees.flatMap Node.listing ↔ ∃ tree ∈ trees, node.IsWithin tree := by
  rw [List.mem_flatMap]
  simp only [Node.mem_listing_iff]

/-! ## Ids and locations -/

namespace Node

/-- Some node of the tree has the given id. -/
def HasId (tree : Node) (id : Int) : Prop :=
  ∃ n ∈ tree.listing, n.id? = some id

/-- Some node of the tree stands at the given location. -/
def HasLocation (tree : Node) (location : Location) : Prop :=
  ∃ n ∈ tree.listing, n.location? = some location

instance (tree : Node) (id : Int) : Decidable (tree.HasId id) :=
  inferInstanceAs (Decidable (∃ n ∈ tree.listing, n.id? = some id))

instance (tree : Node) (location : Location) : Decidable (tree.HasLocation location) :=
  inferInstanceAs (Decidable (∃ n ∈ tree.listing, n.location? = some location))

variable {tree : Node}

theorem isShowable_of_id?_eq_some {id : Int} (h : tree.isShowable = true)
    (hid : tree.id? = some id) : Number.isShowable id = true := by
  rw [isShowable, Header.isShowable, Bool.and_eq_true, ← id?, hid, Option.all_some] at h
  exact h.1

theorem find?_eq_none_of_not_hasId {id : Int} (h : ¬tree.HasId id) :
    tree.listing.find? (fun n => n.id? == some id) = none := by
  apply List.find?_eq_none.mpr
  intro n hn hid
  exact h ⟨n, hn, beq_iff_eq.mp hid⟩

theorem find?_eq_none_of_not_hasLocation {location : Location}
    (h : ¬tree.HasLocation location) :
    tree.listing.reverse.find? (fun n => n.location? == some location) = none := by
  apply List.find?_eq_none.mpr
  intro n hn hlocation
  exact h ⟨n, List.mem_reverse.mp hn, beq_iff_eq.mp hlocation⟩

end Node

namespace Forest

variable {trees trees' : List Node}

theorem isIndexable_iff :
    IsIndexable trees ↔
      (trees.flatMap Node.listing).Pairwise fun n m => ¬n.ShareLongId m := by
  rw [IsIndexable, ← map_node_nodes, List.pairwise_map]

/-- The ids beyond the digit limit, in the order of the nodes. -/
def longIds (trees : List Node) : List Int :=
  ((trees.flatMap Node.listing).filterMap Node.id?).filter fun id => !Number.isShowable id

/-- A forest has an index exactly if its ids beyond the digit limit are all different. -/
theorem isIndexable_iff_nodup_longIds : IsIndexable trees ↔ (longIds trees).Nodup := by
  rw [isIndexable_iff, longIds, List.Nodup, List.pairwise_filter, List.pairwise_filterMap]
  apply List.Pairwise.iff
  intro n m
  constructor
  · rintro hnot id hn id' hm hlong - rfl
    exact hnot ⟨id, hn, hm, by simpa using hlong⟩
  · rintro hne ⟨id, hn, hm, hlong⟩
    have hlong : (!Number.isShowable id) = true := by rw [hlong, Bool.not_false]
    exact hne id hn id hm hlong hlong rfl

instance (trees : List Node) : Decidable (IsIndexable trees) :=
  decidable_of_iff _ isIndexable_iff_nodup_longIds.symm

/-- Whether a forest has an index depends on the ids of its nodes alone, in any order. -/
theorem isIndexable_congr
    (h : ((trees.flatMap Node.listing).map Node.id?).Perm
      ((trees'.flatMap Node.listing).map Node.id?)) : IsIndexable trees ↔ IsIndexable trees' := by
  have hids := h.filterMap id
  rw [List.filterMap_map, List.filterMap_map, Function.id_comp] at hids
  rw [isIndexable_iff_nodup_longIds, isIndexable_iff_nodup_longIds]
  exact (hids.filter _).nodup_iff

theorem isIndexable_iff_of_perm (h : trees.Perm trees') :
    IsIndexable trees ↔ IsIndexable trees' :=
  isIndexable_congr ((h.flatMap_right Node.listing).map Node.id?)

/-- A forest has an index if its ids can all be shown. -/
theorem isIndexable_of_isShowable
    (h : ∀ id, some id ∈ (trees.flatMap Node.listing).map Node.id? →
      Number.isShowable id = true) : IsIndexable trees := by
  have hnone : longIds trees = [] := by
    apply List.filter_eq_nil_iff.mpr
    intro id hid
    obtain ⟨n, hn, hown⟩ := List.mem_filterMap.mp hid
    rw [h id (List.mem_map.mpr ⟨n, hn, hown⟩)]
    exact Bool.false_ne_true
  rw [isIndexable_iff_nodup_longIds, hnone]
  exact List.nodup_nil

theorem IsIndexable.of_append_left (h : IsIndexable (trees ++ trees')) : IsIndexable trees := by
  rw [isIndexable_iff, List.flatMap_append] at h
  exact isIndexable_iff.mpr (List.pairwise_append.mp h).1

theorem IsIndexable.of_cons {tree : Node} (h : IsIndexable (tree :: trees)) :
    IsIndexable trees := by
  rw [isIndexable_iff, List.flatMap_cons] at h
  exact isIndexable_iff.mpr (List.pairwise_append.mp h).2.1

end Forest

namespace Index

section OfForest

variable {trees : List Node} {index : Index} (hindex : ofForest trees = .ok index)

include hindex

theorem withId?_eq_find? (id : Int) :
    index.withId? id = (trees.flatMap Node.listing).find? fun n => n.id? == some id := by
  rw [withId?_of_ofForest hindex, ← Forest.map_node_nodes, List.find?_map]
  rfl

theorem atLocation?_eq_find? (location : Location) :
    index.atLocation? location =
      (trees.flatMap Node.listing).reverse.find? fun n => n.location? == some location := by
  rw [atLocation?_of_ofForest hindex, List.findRev?_eq_find?_reverse, ← Forest.map_node_nodes,
    ← List.map_reverse, List.find?_map]
  rfl

theorem mem_of_atLocation?_eq_some {location : Location} {n : Node}
    (h : index.atLocation? location = some n) : n ∈ trees.flatMap Node.listing :=
  Forest.mem_listing_iff.mpr (isWithin_of_atLocation?_eq_some hindex h)

end OfForest

/-! ## Corresponding listings -/

/-- In lists of corresponding nodes the first ones with a property correspond. -/
theorem related_find? {R : Node → Node → Prop} {p q : Node → Bool} {as bs : List Node}
    (h : List.Forall₂ R as bs) (hpq : ∀ a b, R a b → q b = p a) :
    Option.Rel R (as.find? p) (bs.find? q) := by
  induction h with
  | nil => exact .none
  | @cons a b as bs hab _ ih =>
      rw [List.find?_cons, List.find?_cons, hpq a b hab]
      cases p a with
      | true => exact .some hab
      | false => exact ih

/-- Nodes without a property make no difference to the first one that has it. -/
theorem find?_append_of_none {p : Node → Bool} {front inner back : List Node}
    (h : ∀ n ∈ inner, p n = false) :
    (front ++ inner ++ back).find? p = (front ++ back).find? p := by
  have hinner : inner.find? p = none := by
    apply List.find?_eq_none.mpr
    intro n hn
    simp [h n hn]
  rw [List.find?_append, List.find?_append, List.find?_append, hinner, Option.or_none]

end Index

end SolidityLayout.Ast
