import Std.Data.TreeMap.Lemmas
import SolidityLayout.Contract.Variables
import SolidityLayout.Proofs.Failure.Attempt

/-!
# Looking up the nodes of a forest

An index finds the first node of an id and the last node of a location among
the nodes that are visited, and every node that is visited lies in one of the
trees of the forest.  There is an index unless two nodes share an id that cannot
be shown.
-/

namespace SolidityLayout.Ast

open Attempt

/-! ## Nodes in a tree -/

/-- A node lies in a tree: it is the root or it lies in the tree of a child. -/
inductive Node.IsWithin : Node → Node → Prop
  | root (tree : Node) : IsWithin tree tree
  | inChild {node child tree : Node} :
      child ∈ tree.children → IsWithin node child → IsWithin node tree

namespace Node

variable {node child tree : Node}

theorem isWithin_of_mem_children (hchild : child ∈ tree.children) :
    child.IsWithin tree :=
  .inChild hchild (.root child)

theorem IsWithin.trans {inner : Node}
    (hinner : inner.IsWithin node) (hnode : node.IsWithin tree) :
    inner.IsWithin tree := by
  induction hnode with
  | root => exact hinner
  | inChild hchild _ ih => exact .inChild hchild ih

end Node

namespace Forest

/-- Every node that is visited lies in one of the pending trees. -/
theorem isWithin_of_mem_visit {pending : List Occurrence} {o : Occurrence}
    (ho : o ∈ visit pending) : ∃ p ∈ pending, o.node.IsWithin p.node := by
  induction pending using visit.induct with
  | case1 =>
      rw [visit] at ho
      cases ho
  | case2 first pending ih =>
      rw [visit] at ho
      rcases List.mem_cons.mp ho with rfl | ho
      · exact ⟨o, by simp, .root o.node⟩
      · obtain ⟨p, hp, hwithin⟩ := ih ho
        rcases List.mem_append.mp hp with hp | hp
        · have hchild : p.node ∈ first.node.children := by
            rw [← Occurrence.map_node_numbered first.place first.node.children 0]
            exact List.mem_map_of_mem hp
          exact ⟨first, by simp, .inChild hchild hwithin⟩
        · exact ⟨p, by simp [hp], hwithin⟩

theorem isWithin_of_mem_nodes {trees : List Node} {o : Occurrence}
    (ho : o ∈ nodes trees) : ∃ tree ∈ trees, o.node.IsWithin tree := by
  obtain ⟨p, hp, hwithin⟩ := isWithin_of_mem_visit ho
  refine ⟨p.node, ?_, hwithin⟩
  rw [← Occurrence.map_node_numbered [] trees 0]
  exact List.mem_map_of_mem hp

end Forest

/-! ## Ids that are shared -/

/-- Two nodes share an id beyond the digit limit. -/
def Node.ShareLongId (n m : Node) : Prop :=
  ∃ id, n.id? = some id ∧ m.id? = some id ∧ Number.isShowable id = false

/-- No two nodes of the forest share an id beyond the digit limit. -/
def Forest.IsIndexable (trees : List Node) : Prop :=
  (nodes trees).Pairwise fun o p => ¬o.node.ShareLongId p.node

theorem Forest.nodes_nil : nodes [] = [] := by
  simp [nodes, roots, Occurrence.numbered, visit]

theorem Forest.isIndexable_nil : IsIndexable [] := by
  rw [IsIndexable, nodes_nil]
  exact .nil

/-! ## Indices -/

namespace Index

section ById

variable {index index' : Std.TreeMap Int Occurrence} {o : Occurrence} {nodes : List Occurrence}

theorem enterId_eq_error_iff {failure : Failure} :
    enterId index o = .error failure ↔
      failure = .longNumber ∧
        ∃ id, o.node.id? = some id ∧ id ∈ index ∧ Number.isShowable id = false := by
  rw [enterId]
  cases o.node.id? with
  | none => simp
  | some id =>
      by_cases hmem : id ∈ index
      · simp [hmem, noting_eq_error_iff, and_comm]
      · simp [hmem]

theorem getElem?_of_enterId_eq_ok (h : enterId index o = .ok index') (id : Int) :
    index'[id]? = index[id]?.or (if o.node.id? == some id then some o else none) := by
  rw [enterId] at h
  cases hid : o.node.id? with
  | none =>
      rw [hid] at h
      cases h
      simp
  | some own =>
      simp only [hid] at h
      by_cases hmem : own ∈ index
      · -- The id keeps a node that it has already.
        rw [if_pos (by simpa using hmem), noting_eq_ok_iff] at h
        obtain ⟨-, ⟨⟩⟩ := h
        by_cases hown : own = id
        · subst hown
          simp [hmem]
        · simp [hown]
      · rw [if_neg (by simpa using hmem)] at h
        cases h
        rw [Std.TreeMap.getElem?_insert]
        by_cases hown : own = id
        · subst hown
          simp [hmem]
        · simp [hown]

theorem mem_of_enterId_eq_ok_iff (h : enterId index o = .ok index') {id : Int} :
    id ∈ index' ↔ id ∈ index ∨ o.node.id? = some id := by
  rw [Std.TreeMap.mem_iff_isSome_getElem?, getElem?_of_enterId_eq_ok h,
    Std.TreeMap.mem_iff_isSome_getElem?, Option.isSome_or, Bool.or_eq_true]
  by_cases hid : o.node.id? = some id
  · simp [hid]
  · simp [hid]

/-- Entering a list of nodes leaves an id with the node that it had, or else gives it the first
one in the list. -/
theorem getElem?_of_foldlM_enterId (h : nodes.foldlM enterId index = .ok index') (id : Int) :
    index'[id]? = index[id]?.or (nodes.find? fun o => o.node.id? == some id) := by
  induction nodes generalizing index with
  | nil =>
      cases h
      simp
  | cons o rest ih =>
      rw [List.foldlM_cons] at h
      obtain ⟨entered, hentered, h⟩ := bind_eq_ok_iff.mp h
      rw [ih h, getElem?_of_enterId_eq_ok hentered, Option.or_assoc, List.find?_cons]
      cases o.node.id? == some id with
      | true => rfl
      | false => rfl

/-- All nodes of a list can be entered exactly if no id beyond the digit limit comes again: none of
those that are there already, and none from within the list. -/
theorem exists_foldlM_enterId_eq_ok_iff :
    (∃ index', nodes.foldlM enterId index = .ok index') ↔
      (∀ o ∈ nodes, ∀ id ∈ index, o.node.id? = some id → Number.isShowable id = true) ∧
        nodes.Pairwise fun o p => ¬o.node.ShareLongId p.node := by
  induction nodes generalizing index with
  | nil => simp [pure, Except.pure]
  | cons o rest ih =>
      rw [List.foldlM_cons, List.forall_mem_cons, List.pairwise_cons]
      cases hentered : enterId index o with
      | error failure =>
          obtain ⟨-, id, hid, hmem, hlong⟩ := enterId_eq_error_iff.mp hentered
          refine iff_of_false (by simp [bind, Except.bind]) ?_
          rintro ⟨⟨hshow, -⟩, -⟩
          rw [hshow id hmem hid] at hlong
          cases hlong
      | ok entered =>
          have hshow : ∀ id ∈ index, o.node.id? = some id → Number.isShowable id = true := by
            intro id hmem hid
            by_contra hlong
            rw [enterId_eq_error_iff.mpr ⟨rfl, id, hid, hmem, Bool.eq_false_iff.mpr hlong⟩]
              at hentered
            cases hentered
          change (∃ index', rest.foldlM enterId entered = .ok index') ↔ _
          rw [ih]
          simp only [mem_of_enterId_eq_ok_iff hentered]
          constructor
          · rintro ⟨hall, hrest⟩
            refine ⟨⟨hshow, fun p hp id hid => hall p hp id (Or.inl hid)⟩, ?_, hrest⟩
            rintro p hp ⟨id, hoid, hpid, hlong⟩
            rw [hall p hp id (Or.inr hoid) hpid] at hlong
            cases hlong
          · rintro ⟨⟨-, hall⟩, hfirst, hrest⟩
            refine ⟨?_, hrest⟩
            rintro p hp id (hid | hoid) hpid
            · exact hall p hp id hid hpid
            · by_contra hlong
              exact hfirst p hp ⟨id, hoid, hpid, Bool.eq_false_iff.mpr hlong⟩

theorem getElem?_of_firstById (h : firstById nodes = .ok index) (id : Int) :
    index[id]? = nodes.find? fun o => o.node.id? == some id := by
  rw [getElem?_of_foldlM_enterId h]
  simp

theorem exists_firstById_eq_ok_iff :
    (∃ index, firstById nodes = .ok index) ↔
      nodes.Pairwise fun o p => ¬o.node.ShareLongId p.node := by
  rw [firstById, exists_foldlM_enterId_eq_ok_iff]
  simp

theorem eq_longNumber_of_firstById {failure : Failure} (h : firstById nodes = .error failure) :
    failure = .longNumber := by
  rw [firstById] at h
  generalize (∅ : Std.TreeMap Int Occurrence) = index at h
  induction nodes generalizing index with
  | nil => cases h
  | cons o rest ih =>
      rw [List.foldlM_cons] at h
      rcases bind_eq_error_iff.mp h with hentered | ⟨entered, -, hrest⟩
      · exact (enterId_eq_error_iff.mp hentered).1
      · exact ih entered hrest

end ById

theorem getElem?_enterLocation (index : Std.TreeMap Location Occurrence) (o : Occurrence)
    (location : Location) :
    (enterLocation index o)[location]? =
      (if o.node.location? == some location then some o else none).or index[location]? := by
  rw [enterLocation]
  cases hlocation : o.node.location? with
  | none => simp
  | some own =>
      rw [Std.TreeMap.getElem?_insert]
      by_cases hown : own = location
      · simp [hown]
      · simp [hown]

theorem getElem?_lastByLocation (nodes : List Occurrence) (location : Location) :
    (lastByLocation nodes)[location]? =
      nodes.findRev? fun o => o.node.location? == some location := by
  have hfold (index : Std.TreeMap Location Occurrence) :
      (nodes.foldl enterLocation index)[location]? =
        (nodes.findRev? fun o => o.node.location? == some location).or
          index[location]? := by
    induction nodes generalizing index with
    | nil => simp
    | cons o rest ih =>
        rw [List.foldl_cons, ih, getElem?_enterLocation, List.findRev?_eq_find?_reverse,
          List.findRev?_eq_find?_reverse, List.reverse_cons, List.find?_append,
          Option.or_assoc, List.find?_singleton]
  rw [lastByLocation, hfold]
  simp

theorem ofForest_nil : ofForest [] = .ok ⟨∅, ∅⟩ := by
  rw [ofForest, Forest.nodes_nil]
  rfl

section OfForest

variable {trees : List Node} {index : Index}

theorem ofForest_eq_ok_iff :
    ofForest trees = .ok index ↔
      firstById (Forest.nodes trees) = .ok index.byId ∧
        lastByLocation (Forest.nodes trees) = index.byLocation := by
  obtain ⟨byId, byLocation⟩ := index
  simp only [ofForest, map_eq_ok_iff, Index.mk.injEq]
  constructor
  · rintro ⟨_, hbyId, rfl, hbyLocation⟩
    exact ⟨hbyId, hbyLocation⟩
  · rintro ⟨hbyId, hbyLocation⟩
    exact ⟨byId, hbyId, rfl, hbyLocation⟩

/-- A forest has an index exactly if no two nodes share an id beyond the digit limit. -/
theorem exists_ofForest_eq_ok_iff :
    (∃ index, ofForest trees = .ok index) ↔ Forest.IsIndexable trees := by
  rw [Forest.IsIndexable, ← exists_firstById_eq_ok_iff]
  simp only [ofForest_eq_ok_iff]
  constructor
  · rintro ⟨index, hbyId, -⟩
    exact ⟨index.byId, hbyId⟩
  · rintro ⟨byId, hbyId⟩
    exact ⟨⟨byId, _⟩, hbyId, rfl⟩

theorem ofForest_eq_error_iff {failure : Failure} :
    ofForest trees = .error failure ↔ failure = .longNumber ∧ ¬Forest.IsIndexable trees := by
  rw [← exists_ofForest_eq_ok_iff]
  cases h : ofForest trees with
  | ok index => simp
  | error other =>
      have hother : other = .longNumber :=
        eq_longNumber_of_firstById (map_eq_error_iff.mp h)
      simp [hother, eq_comm]

/-- An id refers to the first node that has it. -/
theorem withId?_of_ofForest (h : ofForest trees = .ok index) (id : Int) :
    index.withId? id =
      ((Forest.nodes trees).find? fun o => o.node.id? == some id).map (·.node) := by
  rw [withId?, Std.TreeMap.get?_eq_getElem?]
  exact congrArg _ (getElem?_of_firstById (ofForest_eq_ok_iff.mp h).1 _)

/-- At a location stands the last node that has it. -/
theorem atLocation?_of_ofForest (h : ofForest trees = .ok index) (location : Location) :
    index.atLocation? location =
      ((Forest.nodes trees).findRev? fun o =>
        o.node.location? == some location).map (·.node) := by
  rw [atLocation?, Std.TreeMap.get?_eq_getElem?, ← (ofForest_eq_ok_iff.mp h).2]
  exact congrArg _ (getElem?_lastByLocation _ _)

theorem isWithin_of_withId?_eq_some {id : Int} {node : Node}
    (hindex : ofForest trees = .ok index) (h : index.withId? id = some node) :
    ∃ tree ∈ trees, node.IsWithin tree := by
  rw [withId?_of_ofForest hindex] at h
  obtain ⟨o, ho, rfl⟩ := Option.map_eq_some_iff.mp h
  exact Forest.isWithin_of_mem_nodes (List.mem_of_find?_eq_some ho)

theorem isWithin_of_atLocation?_eq_some {location : Location} {node : Node}
    (hindex : ofForest trees = .ok index) (h : index.atLocation? location = some node) :
    ∃ tree ∈ trees, node.IsWithin tree := by
  rw [atLocation?_of_ofForest hindex] at h
  obtain ⟨o, ho, rfl⟩ := Option.map_eq_some_iff.mp h
  rw [List.findRev?_eq_find?_reverse] at ho
  exact Forest.isWithin_of_mem_nodes
    (List.mem_reverse.mp (List.mem_of_find?_eq_some ho))

end OfForest

end Index

end SolidityLayout.Ast
