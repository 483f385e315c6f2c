import Mathlib.Data.Set.Function
import SolidityLayout.Proofs.Contract.Correspondence

/-!
# Renumbered forests

The compiler numbers the nodes of a forest as it likes.  Any function that keeps
the numbers of the forest apart can be applied to the ids of the nodes and to the
ids that contracts list as their ancestors: the layouts keep their variables, and
their failures keep their kind.  Several nodes may share an id, and an ancestor
may be listed that is no node of the forest.
-/

namespace SolidityLayout

open Ast Attempt Number

/-! ## Renumbering -/

namespace Json

/-- An entry of a list of ancestors with its number replaced. -/
def renumberEntry (f : Int → Int) : Json → Json
  | int n => int (f n)
  | entry => entry

/-- A list of ancestors with the numbers replaced. -/
def renumberBases (f : Int → Int) : Json → Json
  | arr entries => arr (entries.map (renumberEntry f))
  | value => value

/-- Attributes with the numbers of the ancestors replaced. -/
def renumberAttributes (f : Int → Int) (attributes : Members) : Members :=
  attributes.map fun (key, value) =>
    (key, if key = "linearizedBaseContracts" then renumberBases f value else value)

theorem get?_renumberAttributes (f : Int → Int) (attributes : Members) (key : String) :
    Members.get? (renumberAttributes f attributes) key =
      (attributes.get? key).map fun value =>
        if key = "linearizedBaseContracts" then renumberBases f value else value := by
  induction attributes with
  | nil => rfl
  | cons member rest ih =>
      obtain ⟨own, value⟩ := member
      rw [Members.get?, renumberAttributes, List.map_cons, List.lookup_cons, Members.get?,
        List.lookup_cons]
      by_cases hkey : key = own
      · subst hkey
        simp only [beq_self_eq_true, Option.map_some]
      · simp only [beq_false_of_ne hkey]
        exact ih

end Json

namespace Ast

/-- A header with the id of the node and the ids of the ancestors replaced. -/
def Header.renumber (f : Int → Int) (header : Header) : Header :=
  { header with
    id? := header.id?.map f
    attributes := Json.renumberAttributes f header.attributes }

namespace Node

variable (f : Int → Int)

mutual

/-- A tree with all ids replaced. -/
def renumber : Node → Node
  | mk header children => mk (header.renumber f) (renumberAll children)
termination_by structural n => n

/-- Several trees with all ids replaced. -/
def renumberAll : List Node → List Node
  | [] => []
  | n :: rest => renumber n :: renumberAll rest
termination_by structural nodes => nodes

end

theorem renumberAll_eq_map (nodes : List Node) :
    renumberAll f nodes = nodes.map (renumber f) := by
  induction nodes with
  | nil => rfl
  | cons n rest ih => rw [renumberAll, ih, List.map_cons]

theorem header_renumber (n : Node) : (n.renumber f).header = n.header.renumber f := by
  cases n
  rw [renumber]
  rfl

theorem children_renumber (n : Node) :
    (n.renumber f).children = n.children.map (renumber f) := by
  cases n
  rw [renumber, children, renumberAll_eq_map, children]

theorem id?_renumber (n : Node) : (n.renumber f).id? = n.id?.map f := by
  rw [id?, header_renumber]
  rfl

theorem location?_renumber (n : Node) : (n.renumber f).location? = n.location? := by
  rw [location?, header_renumber]
  rfl

theorem attribute?_renumber (n : Node) (key : String) :
    (n.renumber f).attribute? key =
      (n.attribute? key).map fun value =>
        if key = "linearizedBaseContracts" then Json.renumberBases f value else value := by
  rw [attribute?, attributes, header_renumber]
  exact Json.get?_renumberAttributes f n.attributes key

theorem attribute?_renumber_of_ne (n : Node) {key : String}
    (hkey : key ≠ "linearizedBaseContracts") :
    (n.renumber f).attribute? key = n.attribute? key := by
  rw [attribute?_renumber]
  simp only [if_neg hkey, Option.map_id_fun', id]

theorem isStorageVariable_renumber (n : Node) :
    isStorageVariable (n.renumber f) = isStorageVariable n := by
  rw [isStorageVariable, attribute?_renumber_of_ne f n (by decide), isTagged, tag?, hasSource,
    header_renumber]
  rfl

mutual

theorem listing_renumber : (n : Node) →
    (renumber f n).listing = n.listing.map (renumber f)
  | mk header children => by
      rw [listing, List.map_cons, ← listingOfAll_renumber children, renumber, listing]
termination_by structural n => n

theorem listingOfAll_renumber : (nodes : List Node) →
    listingOfAll (renumberAll f nodes) = (listingOfAll nodes).map (renumber f)
  | [] => rfl
  | n :: rest => by
      rw [renumberAll, listingOfAll, listing_renumber n, listingOfAll_renumber rest,
        listingOfAll, List.map_append]
termination_by structural nodes => nodes

end

end Node

theorem Forest.listing_renumber (f : Int → Int) (trees : List Node) :
    (trees.map (Node.renumber f)).flatMap Node.listing =
      (trees.flatMap Node.listing).map (Node.renumber f) := by
  rw [List.flatMap_map, List.map_flatMap]
  simp only [Node.listing_renumber]

/-! ## Numbers that are kept apart -/

/-- A number stands in the forest as the id of a node or in a list of
ancestors. -/
def Forest.HasNumber (trees : List Node) (i : Int) : Prop :=
  ∃ n ∈ trees.flatMap Node.listing, n.id? = some i ∨ n.ListsBase (.int i)

/-- A function renumbers a forest: it keeps the numbers of the forest apart, all
numbers are far from the limit of floating-point numbers, and only integers are
listed as numbers of ancestors. -/
structure Forest.IsRenumbering (f : Int → Int) (trees : List Node) : Prop where
  injOn : Set.InjOn f {i | HasNumber trees i}
  inRange : ∀ i, HasNumber trees i →
    i.natAbs < Nat.pow 2 1023 ∧ (f i).natAbs < Nat.pow 2 1023
  noFloat : ∀ n ∈ trees.flatMap Node.listing, ∀ x, ¬n.ListsBase (.float x)

end Ast

/-! ## Renumbered nodes correspond -/

/-- A node of the forest and the same node with its numbers replaced. -/
def Ast.Node.IsRenumbered (f : Int → Int) (trees : List Node) (n m : Node) : Prop :=
  n ∈ trees.flatMap Node.listing ∧ m = n.renumber f

namespace Ast.Forest.IsRenumbering

variable {f : Int → Int} {trees : List Node} {n : Node}

theorem isTooLarge_eq (h : IsRenumbering f trees) {i : Int} (hi : HasNumber trees i) :
    Binary64.isTooLarge i = false ∧ Binary64.isTooLarge (f i) = false :=
  ⟨Binary64.isTooLarge_of_natAbs_lt (h.inRange i hi).1,
    Binary64.isTooLarge_of_natAbs_lt (h.inRange i hi).2⟩

theorem isShowable_eq (h : IsRenumbering f trees) {i : Int} (hi : HasNumber trees i) :
    Number.isShowable (f i) = Number.isShowable i := by
  obtain ⟨hlarge, hlarge'⟩ := h.isTooLarge_eq hi
  rw [Binary64.isShowable_of_not_isTooLarge hlarge,
    Binary64.isShowable_of_not_isTooLarge hlarge']

theorem node_isShowable_eq (h : IsRenumbering f trees)
    (hn : n ∈ trees.flatMap Node.listing) :
    (n.renumber f).isShowable = n.isShowable := by
  have hid := n.id?_renumber f
  rw [Node.id?, Node.id?, Node.header_renumber] at hid
  rw [Node.isShowable, Node.isShowable, Node.header_renumber, Header.isShowable,
    Header.isShowable, hid]
  cases hown : n.header.id? with
  | none => rfl
  | some i =>
      have hi : HasNumber trees i := ⟨n, hn, Or.inl hown⟩
      simp only [Option.map_some, Option.all_some, h.isShowable_eq hi]
      rfl

/-- An entry gives an id, and its replacement the replaced id, or both are no
ids. -/
theorem related_idOfEntry (h : IsRenumbering f trees)
    (hn : n ∈ trees.flatMap Node.listing) {entry : Json} (hentry : n.ListsBase entry) :
    Related (fun i j => f i = j) Failure.IsOfKindOf
      (Ancestry.idOfEntry entry) (Ancestry.idOfEntry (Json.renumberEntry f entry)) := by
  cases entry with
  | int i =>
      have hi : HasNumber trees i := ⟨n, hn, Or.inr hentry⟩
      have hlarge := h.isTooLarge_eq hi
      rw [Json.renumberEntry, Ancestry.idOfEntry_int hlarge.1,
        Ancestry.idOfEntry_int hlarge.2]
      rfl
  | float x => exact (h.noFloat n hn x hentry).elim
  | _ => rfl

theorem related_ofContract (h : IsRenumbering f trees)
    (hn : n ∈ trees.flatMap Node.listing) :
    Related (fun ids others => others = ids.map f) Failure.IsOfKindOf
      (Ancestry.ofContract n) (Ancestry.ofContract (n.renumber f)) := by
  have hattribute := n.attribute?_renumber f "linearizedBaseContracts"
  simp only [if_true] at hattribute
  cases hbases : n.attribute? "linearizedBaseContracts" with
  | none =>
      rw [hbases, Option.map_none] at hattribute
      rw [Ancestry.ofContract, Ancestry.ofContract, hbases, hattribute]
      exact Related.noting (h.node_isShowable_eq hn) rfl rfl
  | some value =>
      rw [hbases, Option.map_some] at hattribute
      cases value with
      | arr entries =>
          rw [Ancestry.ofContract_of_listed hbases, Ancestry.ofContract_of_listed hattribute]
          have hentries : List.Forall₂ (fun entry other => Json.renumberEntry f entry = other)
              entries (entries.map (Json.renumberEntry f)) :=
            List.forall₂_map_right_iff.mpr (List.forall₂_same.mpr fun _ _ => rfl)
          have hids := Related.mapM hentries fun entry hentry _ hother => by
            subst hother
            exact h.related_idOfEntry hn ⟨entries, hbases, hentry⟩
          apply hids.map
          intro ids others hall
          rw [← List.forall₂_map_left_iff, List.forall₂_eq_eq_eq] at hall
          rw [← hall, List.map_reverse]
      | null =>
          rw [Ancestry.ofContract, Ancestry.ofContract, hbases, hattribute]
          exact Related.noting (h.node_isShowable_eq hn) rfl rfl
      | _ =>
          rw [Ancestry.ofContract, Ancestry.ofContract, hbases, hattribute]
          rfl

end Ast.Forest.IsRenumbering

namespace Ast.Node

variable {f : Int → Int} {trees : List Node} {n m : Node}

theorem forall₂_isRenumbered {nodes : List Node}
    (h : ∀ n ∈ nodes, n ∈ trees.flatMap listing) :
    List.Forall₂ (IsRenumbered f trees) nodes (nodes.map (renumber f)) := by
  rw [List.forall₂_map_right_iff, List.forall₂_same]
  intro n hn
  exact ⟨h n hn, rfl⟩

theorem mem_listing_of_mem_children {child : Node}
    (hn : n ∈ trees.flatMap listing) (hchild : child ∈ n.children) :
    child ∈ trees.flatMap listing := by
  obtain ⟨tree, htree, hwithin⟩ := Forest.mem_listing_iff.mp hn
  apply Forest.mem_listing_iff.mpr
  exact ⟨tree, htree, (isWithin_of_mem_children hchild).trans hwithin⟩

theorem IsRenumbered.forall₂_children (h : IsRenumbered f trees n m) :
    List.Forall₂ (IsRenumbered f trees) n.children m.children := by
  obtain ⟨hn, rfl⟩ := h
  rw [children_renumber]
  exact forall₂_isRenumbered fun child hchild => mem_listing_of_mem_children hn hchild

end Ast.Node

theorem isCorrespondence_isRenumbered {f : Int → Int} {trees : List Node}
    (h : Forest.IsRenumbering f trees) :
    IsCorrespondence f Failure.IsOfKindOf (Node.IsRenumbered f trees) where
  same_refl _ := rfl
  same_of_isAbout := by
    rintro n _ cause ⟨hn, rfl⟩ habout
    exact habout.isOfKindOf (h.node_isShowable_eq hn)
  isShowable_eq := by
    rintro n _ ⟨hn, rfl⟩
    exact h.node_isShowable_eq hn
  tag?_eq := by
    rintro n _ ⟨-, rfl⟩
    rw [Node.tag?, Node.header_renumber]
    rfl
  attribute?_eq := by
    rintro n _ key ⟨-, rfl⟩ hkey
    exact n.attribute?_renumber_of_ne f hkey
  ancestors := by
    rintro n _ ⟨hn, rfl⟩
    exact h.related_ofContract hn
  typeParts hrenumbered _ := hrenumbered.forall₂_children
  declaredType hrenumbered _ := Node.rel_head? hrenumbered.forall₂_children
  declarations hrenumbered := by
    apply List.rel_filter _ hrenumbered.forall₂_children
    rintro n _ ⟨-, rfl⟩
    simp only [Node.isStorageVariable_renumber]

namespace Ast.Forest

theorem forall₂_listing_renumber (f : Int → Int) (trees : List Node) :
    List.Forall₂ (Node.IsRenumbered f trees) (trees.flatMap Node.listing)
      ((trees.map (Node.renumber f)).flatMap Node.listing) := by
  rw [listing_renumber]
  exact Node.forall₂_isRenumbered fun _ hn => hn

namespace IsRenumbering

variable {f : Int → Int} {trees : List Node} (h : IsRenumbering f trees)

include h

theorem isIndexable : IsIndexable trees := by
  apply isIndexable_of_isShowable
  intro i hi
  obtain ⟨n, hn, hid⟩ := List.mem_map.mp hi
  exact Binary64.isShowable_of_not_isTooLarge (h.isTooLarge_eq ⟨n, hn, Or.inl hid⟩).1

theorem isIndexable_renumber : IsIndexable (trees.map (Node.renumber f)) := by
  apply isIndexable_of_isShowable
  intro i hi
  rw [listing_renumber, List.map_map] at hi
  obtain ⟨n, hn, hid⟩ := List.mem_map.mp hi
  rw [Function.comp_apply, Node.id?_renumber] at hid
  obtain ⟨j, hj, rfl⟩ := Option.map_eq_some_iff.mp hid
  exact Binary64.isShowable_of_not_isTooLarge (h.isTooLarge_eq ⟨n, hn, Or.inl hj⟩).2

end IsRenumbering

section Indices

variable {f : Int → Int} {trees : List Node} {index index' : Index}
variable (hindex : Index.ofForest trees = .ok index)
variable (hindex' : Index.ofForest (trees.map (Node.renumber f)) = .ok index')

include hindex hindex'

theorem rel_atLocation?_renumber (location : Location) :
    Option.Rel (Node.IsRenumbered f trees) (index.atLocation? location)
      (index'.atLocation? location) := by
  rw [Index.atLocation?_eq_find? hindex, Index.atLocation?_eq_find? hindex']
  apply Index.related_find? (List.rel_reverse (forall₂_listing_renumber f trees))
  rintro n _ ⟨-, rfl⟩
  rw [Node.location?_renumber]

namespace IsRenumbering

/-- The first node with an id stays the first one, since no other number of the
forest takes its place. -/
theorem rel_withId? (h : IsRenumbering f trees) {i : Int} (hi : HasNumber trees i) :
    Option.Rel (Node.IsRenumbered f trees) (index.withId? i) (index'.withId? (f i)) := by
  rw [Index.withId?_eq_find? hindex, Index.withId?_eq_find? hindex']
  apply Index.related_find? (forall₂_listing_renumber f trees)
  rintro n _ ⟨hn, rfl⟩
  rw [Node.id?_renumber]
  cases hid : n.id? with
  | none => rfl
  | some j =>
      have hj : HasNumber trees j := ⟨n, hn, Or.inl hid⟩
      rw [Option.map_some, Option.some_beq_some, Option.some_beq_some, Bool.eq_iff_iff,
        beq_iff_eq, beq_iff_eq]
      exact h.injOn.eq_iff hj hi

theorem refersAlike (h : IsRenumbering f trees) {i : Int} (hi : HasNumber trees i) :
    RefersAlike f Failure.IsOfKindOf (Node.IsRenumbered f trees) index.lookup index'.lookup i where
  found := h.rel_withId? hindex hindex' hi
  missing := by
    apply LayoutError.isOfKindOf_failure
    · rw [LayoutError.isShowable, LayoutError.isShowable, h.isShowable_eq hi]
    · rfl
  nameless := by
    apply LayoutError.isOfKindOf_failure
    · rw [LayoutError.isShowable, LayoutError.isShowable, MalformedTree.isShowable,
        MalformedTree.isShowable, h.isShowable_eq hi]
    · rfl

omit hindex hindex' in
/-- Every ancestor of a contract of the forest is one of its numbers. -/
theorem hasNumber_of_mem (h : IsRenumbering f trees) {contract : Node} {ids : List Int}
    (hcontract : contract ∈ trees.flatMap Node.listing)
    (hids : Ancestry.ofContract contract = .ok ids) {i : Int} (hi : i ∈ ids) :
    HasNumber trees i := by
  obtain ⟨entry, hlists, hread⟩ := Ancestry.exists_listsBase_of_mem hids hi
  cases entry with
  | int j =>
      have hj : HasNumber trees j := ⟨contract, hcontract, Or.inr hlists⟩
      rw [Ancestry.idOfEntry_int (h.isTooLarge_eq hj).1] at hread
      obtain rfl := Except.ok.inj hread
      exact hj
  | float x => exact (h.noFloat contract hcontract x hlists).elim
  | _ => cases hread

theorem findAlike (h : IsRenumbering f trees) (locations : List Location) :
    FindAlike f Failure.IsOfKindOf (Node.IsRenumbered f trees) index.lookup index'.lookup
      locations where
  located location _ := rel_atLocation?_renumber hindex hindex' location
  referred contract ids hcontract hids i hi := by
    obtain ⟨location, -, hfound⟩ := NodeLookup.exists_of_definition_eq_ok hcontract
    have hmem := Index.mem_of_atLocation?_eq_some hindex hfound
    exact h.refersAlike hindex hindex' (h.hasNumber_of_mem hmem hids hi)

end IsRenumbering

end Indices

end Ast.Forest

/-! ## Layouts of a renumbered forest -/

/-- A renumbered forest has the same layouts: the same variables with the same
texts, and the renumbered ancestors, or else failures of the same kinds.  Both
forests have an index. -/
theorem Layout.ofLocations_renumber {f : Int → Int} {trees : List Node}
    (h : Forest.IsRenumbering f trees) (reader : TypeReader) (locations : List Location) :
    (∃ index, Index.ofForest trees = .ok index) ∧
    (∃ index, Index.ofForest (trees.map (Node.renumber f)) = .ok index) ∧
    Related
      (fun layout layout' => layout'.contract? = layout.contract? ∧
        layout'.ancestors = layout.ancestors.map f ∧
        layout'.contents = layout.contents) Failure.IsOfKindOf
      (inForest trees reader locations)
      (inForest (trees.map (Node.renumber f)) reader locations) ∧
    Related Eq Failure.IsOfKindOf
      (textsInForest trees reader locations)
      (textsInForest (trees.map (Node.renumber f)) reader locations) := by
  obtain ⟨index, hindex⟩ := Index.exists_ofForest_eq_ok_iff.mpr h.isIndexable
  obtain ⟨index', hindex'⟩ := Index.exists_ofForest_eq_ok_iff.mpr h.isIndexable_renumber
  have hrenumbered := isCorrespondence_isRenumbered h
  have hfind := h.findAlike hindex hindex' locations
  rw [inForest, inForest, textsInForest, textsInForest, hindex, hindex']
  exact ⟨⟨index, rfl⟩, ⟨index', rfl⟩, hrenumbered.ofLocations reader hfind,
    hrenumbered.texts reader hfind⟩

namespace Layout

theorem eq_of_hasNumber {i : Int}
    (h : Forest.HasNumber [tokenSource [flagDeclaration "open"],
      tokenSource [flagDeclaration "open"]] i) : i = 1 ∨ i = 2 := by
  obtain ⟨n, hn, hnumber⟩ := h
  simp only [List.flatMap_cons, List.flatMap_nil, List.append_nil, List.mem_append,
    or_self] at hn
  rcases hnumber with hid | hlists
  · rw [listing_tokenSource] at hn
    simp only [List.mem_cons, List.not_mem_nil, or_false] at hn
    rcases hn with rfl | rfl | rfl | rfl
    · exact Or.inl (Option.some.inj hid).symm
    · exact Or.inr (Option.some.inj hid).symm
    · cases hid
    · cases hid
  · exact Or.inr (Json.int.inj (eq_int_two_of_listsBase hn hlists))

/-- A source file that occurs twice, numbered from the other end. -/
theorem ofLocations_renumber_tokenSource :
    ∃ layout, inForest ([tokenSource [flagDeclaration "open"],
          tokenSource [flagDeclaration "open"]].map (Node.renumber fun i => 100 - i))
        (fun name => .ok (.elementary name)) [⟨0, 80, 0⟩] = .ok layout ∧
      layout.ancestors = [98] ∧
      layout.contents = [⟨"open", "Token", .ofValue (.elementary "bool")⟩] := by
  have hrenumbering : Forest.IsRenumbering (fun i => 100 - i)
      [tokenSource [flagDeclaration "open"], tokenSource [flagDeclaration "open"]] := by
    refine ⟨?_, ?_, ?_⟩
    · intro i _ j _ hij
      simp only at hij
      omega
    · intro i hi
      rcases eq_of_hasNumber hi with rfl | rfl
      · decide +kernel
      · decide +kernel
    · intro n hn x hlists
      simp only [List.flatMap_cons, List.flatMap_nil, List.append_nil, List.mem_append,
        or_self] at hn
      cases eq_int_two_of_listsBase hn hlists
  obtain ⟨⟨index, hindex⟩, -, hlayout, -⟩ := ofLocations_renumber hrenumbering
    (fun name => .ok (.elementary name)) [⟨0, 80, 0⟩]
  have htwice : inForest [tokenSource [flagDeclaration "open"],
      tokenSource [flagDeclaration "open"]] (fun name => .ok (.elementary name))
        [⟨0, 80, 0⟩] =
      .ok ⟨some "Token", [2], [⟨"open", "Token", .ofValue (.elementary "bool")⟩]⟩ := by
    rw [inForest, hindex]
    exact ofLocations_tokenContract (Index.atLocation?_eq_find? hindex _)
      (Index.withId?_eq_find? hindex _)
  obtain ⟨layout, hlayout', -, hancestors, hcontents⟩ := hlayout.exists_ok htwice
  exact ⟨layout, hlayout', hancestors, hcontents⟩

end Layout

end SolidityLayout
