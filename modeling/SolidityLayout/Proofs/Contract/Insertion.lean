import SolidityLayout.Proofs.Ast.Listing
import SolidityLayout.Proofs.Contract.Correspondence

/-!
# Insertions without storage

A subtree that declares no storage variable can be inserted into the definition
of a contract, or into a declaration behind its type, without any change to the
layouts of contracts, provided that nothing refers to a node of the subtree.
Every node outside the subtree keeps its header, so that the nodes of the forest
before and after the insertion correspond, and the listing of the forest is only
interrupted by the listing of the subtree.
-/

namespace SolidityLayout

open Ast Attempt

/-! ## Inserted subtrees -/

namespace Ast.Node

/-- A child may be put behind the given ones: anywhere in the definition of a
contract, and in the declaration of a variable behind its type. -/
def TakesChild (header : Header) (front : List Node) : Prop :=
  header.tag? = some "ContractDefinition" ∨
    header.tag? = some "VariableDeclaration" ∧ front ≠ []

/-- The second tree is the first one with `u` inserted among the children of one
of its nodes. -/
inductive IsInsertion (u : Node) : Node → Node → Prop
  | here {header : Header} {front back : List Node} :
      TakesChild header front →
      IsInsertion u (.mk header (front ++ back)) (.mk header (front ++ u :: back))
  | inChild {header : Header} {front back : List Node} {tree tree' : Node} :
      IsInsertion u tree tree' →
      IsInsertion u (.mk header (front ++ tree :: back)) (.mk header (front ++ tree' :: back))

/-- A node and its copy in a tree into which `u` is inserted. -/
def IsCopy (u n m : Node) : Prop :=
  n = m ∨ u.IsInsertion n m

variable {u n m : Node}

theorem IsCopy.header_eq (h : u.IsCopy n m) : m.header = n.header := by
  rcases h with rfl | hinsert
  · rfl
  · cases hinsert <;> rfl

theorem forall₂_isCopy_self (u : Node) (nodes : List Node) :
    List.Forall₂ u.IsCopy nodes nodes :=
  List.forall₂_same.mpr fun _ _ => Or.inl rfl

theorem IsInsertion.forall₂_isCopy {tree tree' : Node} (h : u.IsInsertion tree tree')
    (front back : List Node) :
    List.Forall₂ u.IsCopy (front ++ tree :: back) (front ++ tree' :: back) :=
  List.rel_append (forall₂_isCopy_self u front)
    (.cons (Or.inr h) (forall₂_isCopy_self u back))

/-- The children of a node that takes no child are copies of one another. -/
theorem IsCopy.forall₂_children (h : u.IsCopy n m)
    (htakes : ∀ front, ¬TakesChild n.header front) :
    List.Forall₂ u.IsCopy n.children m.children := by
  rcases h with rfl | hinsert
  · exact forall₂_isCopy_self u n.children
  · cases hinsert with
    | here htake => exact (htakes _ htake).elim
    | inChild hinner => exact hinner.forall₂_isCopy _ _

end Ast.Node

/-- The second forest is the first one with `u` inserted into one of its
trees. -/
def Ast.Forest.IsInsertion (u : Node) (trees trees' : List Node) : Prop :=
  ∃ front tree tree' back, trees = front ++ tree :: back ∧
    trees' = front ++ tree' :: back ∧ u.IsInsertion tree tree'

/-! ## Copies correspond -/

section Headers

variable {n m : Node}

theorem Ast.Node.label_congr (h : m.header = n.header) : m.label = n.label := by
  obtain ⟨header, children⟩ := n
  obtain ⟨header', children'⟩ := m
  obtain rfl : header' = header := h
  rfl

theorem Ast.Node.isShowable_congr (h : m.header = n.header) :
    m.isShowable = n.isShowable := by
  rw [Node.isShowable, Node.isShowable, h]

theorem Ast.Node.attribute?_congr (h : m.header = n.header) (key : String) :
    m.attribute? key = n.attribute? key := by
  simp only [Node.attribute?, Node.attributes, h]

theorem isStorageVariable_congr (h : m.header = n.header) :
    isStorageVariable m = isStorageVariable n := by
  simp only [isStorageVariable, Node.isTagged, Node.tag?, Node.hasSource,
    Node.attribute?_congr h, h]

theorem Ancestry.ofContract_congr (h : m.header = n.header) :
    ofContract m = ofContract n := by
  rw [ofContract, ofContract, Node.attribute?_congr h, Node.isShowable_congr h]

end Headers

namespace Ast.Node

variable {u n m : Node}

/-- A declaration keeps its type, since nothing is put in front of it. -/
theorem IsCopy.head?_children (h : u.IsCopy n m)
    (htag : n.tag? = some "VariableDeclaration") :
    Option.Rel u.IsCopy n.children.head? m.children.head? := by
  rcases h with rfl | hinsert
  · exact rel_head? (forall₂_isCopy_self u n.children)
  · cases hinsert with
    | @here header front back htake =>
        have hfront : front ≠ [] := by
          rcases htake with hcontract | ⟨-, hfront⟩
          · have heq := hcontract.symm.trans htag
            exact absurd (Option.some.inj heq) (by decide)
          · exact hfront
        cases front with
        | nil => exact (hfront rfl).elim
        | cons type front => exact .some (Or.inl rfl)
    | inChild hinner => exact rel_head? (hinner.forall₂_isCopy _ _)

/-- The storage variables among the children are copies of one another. -/
theorem IsCopy.filter_children (h : u.IsCopy n m) (hu : isStorageVariable u = false) :
    List.Forall₂ u.IsCopy (n.children.filter isStorageVariable)
      (m.children.filter isStorageVariable) := by
  have hfilter {as bs : List Node} (hall : List.Forall₂ u.IsCopy as bs) :
      List.Forall₂ u.IsCopy (as.filter isStorageVariable) (bs.filter isStorageVariable) :=
    List.rel_filter (fun _ _ hcopy =>
      iff_of_eq (congrArg (· = true) (isStorageVariable_congr hcopy.header_eq).symm)) hall
  rcases h with rfl | hinsert
  · exact forall₂_isCopy_self u _
  · cases hinsert with
    | @here header front back htake =>
        have hsame : (front ++ u :: back).filter isStorageVariable =
            (front ++ back).filter isStorageVariable := by
          rw [List.filter_append, List.filter_append,
            List.filter_cons_of_neg (by rw [hu]; decide)]
        rw [children, children, hsame]
        exact forall₂_isCopy_self u _
    | inChild hinner => exact hfilter (hinner.forall₂_isCopy _ _)

end Ast.Node

theorem isCorrespondence_isCopy {u : Node} (hu : isStorageVariable u = false) :
    IsCorrespondence id Failure.IsReportedLike u.IsCopy where
  same_refl := Failure.IsReportedLike.refl
  same_of_isAbout hcopy habout :=
    habout.isReportedLike (Node.isShowable_congr hcopy.header_eq)
      (Node.label_congr hcopy.header_eq)
  isShowable_eq hcopy := Node.isShowable_congr hcopy.header_eq
  tag?_eq hcopy := congrArg Header.tag? hcopy.header_eq
  attribute?_eq hcopy _ := Node.attribute?_congr hcopy.header_eq _
  ancestors hcopy := by
    rw [Ancestry.ofContract_congr hcopy.header_eq]
    apply (Related.of_eq Failure.IsReportedLike.refl rfl).mono
    rintro ids _ rfl
    exact (List.map_id ids).symm
  typeParts hcopy htag := by
    apply hcopy.forall₂_children
    rintro front (hcontract | ⟨hdeclaration, -⟩)
    · rcases htag with htag | htag
      · simpa using hcontract.symm.trans htag
      · simpa using hcontract.symm.trans htag
    · rcases htag with htag | htag
      · simpa using hdeclaration.symm.trans htag
      · simpa using hdeclaration.symm.trans htag
  declaredType hcopy htag := hcopy.head?_children htag
  declarations hcopy := hcopy.filter_children hu

/-! ## Interrupted listings -/

/-- The second list is a copy of the first one, interrupted by an inner list. -/
def IsInterrupted (R : Node → Node → Prop) (inner as bs : List Node) : Prop :=
  ∃ front front' back back', as = front ++ back ∧ bs = front' ++ inner ++ back' ∧
    List.Forall₂ R front front' ∧ List.Forall₂ R back back'

namespace IsInterrupted

variable {R : Node → Node → Prop} {inner as bs : List Node}

theorem surround {as₁ bs₁ as₂ bs₂ : List Node} (h : IsInterrupted R inner as bs)
    (hfront : List.Forall₂ R as₁ bs₁) (hback : List.Forall₂ R as₂ bs₂) :
    IsInterrupted R inner (as₁ ++ as ++ as₂) (bs₁ ++ bs ++ bs₂) := by
  obtain ⟨front, front', back, back', rfl, rfl, h₁, h₂⟩ := h
  refine ⟨as₁ ++ front, bs₁ ++ front', back ++ as₂, back' ++ bs₂, ?_, ?_,
    List.rel_append hfront h₁, List.rel_append h₂ hback⟩
  · simp only [List.append_assoc]
  · simp only [List.append_assoc]

theorem reverse (h : IsInterrupted R inner as bs) :
    IsInterrupted R inner.reverse as.reverse bs.reverse := by
  obtain ⟨front, front', back, back', rfl, rfl, h₁, h₂⟩ := h
  refine ⟨back.reverse, back'.reverse, front.reverse, front'.reverse, ?_, ?_,
    List.rel_reverse h₂, List.rel_reverse h₁⟩
  · rw [List.reverse_append]
  · simp only [List.reverse_append, List.append_assoc]

/-- If the inner list has no node with a property, then the first nodes with that
property correspond. -/
theorem related_find? {p : Node → Bool} (h : IsInterrupted R inner as bs)
    (hinner : ∀ n ∈ inner, p n = false) (hR : ∀ a b, R a b → p b = p a) :
    Option.Rel R (as.find? p) (bs.find? p) := by
  obtain ⟨front, front', back, back', rfl, rfl, h₁, h₂⟩ := h
  rw [Index.find?_append_of_none hinner]
  exact Index.related_find? (List.rel_append h₁ h₂) hR

end IsInterrupted

theorem Ast.Node.IsInsertion.isInterrupted_listing {u tree tree' : Node}
    (h : u.IsInsertion tree tree') :
    IsInterrupted u.IsCopy u.listing tree.listing tree'.listing := by
  induction h with
  | @here header front back htake =>
      simp only [Node.listing_eq (.mk header _), Node.children, List.flatMap_append,
        List.flatMap_cons]
      refine ⟨.mk header (front ++ back) :: front.flatMap Node.listing,
        .mk header (front ++ u :: back) :: front.flatMap Node.listing,
        back.flatMap Node.listing, back.flatMap Node.listing, rfl, ?_, ?_, ?_⟩
      · simp only [List.cons_append, List.append_assoc]
      · exact .cons (Or.inr (.here htake)) (Node.forall₂_isCopy_self u _)
      · exact Node.forall₂_isCopy_self u _
  | @inChild header front back tree tree' hinner ih =>
      have hroot : u.IsCopy (.mk header (front ++ tree :: back))
          (.mk header (front ++ tree' :: back)) := Or.inr (.inChild hinner)
      have hself := Node.forall₂_isCopy_self u
      have hinterrupted := ih.surround (.cons hroot (hself (front.flatMap Node.listing)))
        (hself (back.flatMap Node.listing))
      simp only [Node.listing_eq (.mk header _), Node.children, List.flatMap_append,
        List.flatMap_cons]
      simpa only [List.cons_append, List.append_assoc] using hinterrupted

theorem Ast.Forest.IsInsertion.isInterrupted_listing {u : Node} {trees trees' : List Node}
    (h : Forest.IsInsertion u trees trees') :
    IsInterrupted u.IsCopy u.listing (trees.flatMap Node.listing)
      (trees'.flatMap Node.listing) := by
  obtain ⟨front, tree, tree', back, rfl, rfl, hinsert⟩ := h
  have hself := Node.forall₂_isCopy_self u
  have hinterrupted := hinsert.isInterrupted_listing.surround
    (hself (front.flatMap Node.listing)) (hself (back.flatMap Node.listing))
  simpa only [List.flatMap_append, List.flatMap_cons, List.append_assoc] using hinterrupted

/-! ## Layouts after an insertion -/

/-- A node lists an id among the ancestors of a contract: as an integer, or as a
number of which the id is the floor. -/
def Ast.Node.ListsAncestor (n : Node) (id : Int) : Prop :=
  n.ListsBase (.int id) ∨ ∃ x, n.ListsBase (.float x) ∧ x.floor? = some id

theorem Ancestry.listsAncestor_of_mem {contract : Node} {ids : List Int}
    (h : ofContract contract = .ok ids) {id : Int} (hid : id ∈ ids) :
    contract.ListsAncestor id := by
  obtain ⟨entry, hlists, hread⟩ := exists_listsBase_of_mem h hid
  cases entry with
  | int n =>
      simp only [idOfEntry] at hread
      split at hread
      · cases hread
      · cases hread
        exact Or.inl hlists
  | float x =>
      simp only [idOfEntry] at hread
      split at hread
      · rename_i hfloor
        cases hread
        exact Or.inr ⟨x, hlists, hfloor⟩
      · cases hread
  | _ => cases hread

namespace Ast.Forest

/-- Some node of the forest lists an id among the ancestors of a contract. -/
def ListsAncestor (trees : List Node) (id : Int) : Prop :=
  ∃ n ∈ trees.flatMap Node.listing, n.ListsAncestor id

variable {u : Node} {trees trees' : List Node}

theorem IsInsertion.rel_withId? (h : IsInsertion u trees trees') {index index' : Index}
    (hindex : Index.ofForest trees = .ok index) (hindex' : Index.ofForest trees' = .ok index')
    {id : Int} (hid : ¬u.HasId id) :
    Option.Rel u.IsCopy (index.withId? id) (index'.withId? id) := by
  rw [Index.withId?_eq_find? hindex, Index.withId?_eq_find? hindex']
  apply h.isInterrupted_listing.related_find?
  · intro inner hinner
    apply beq_false_of_ne
    exact fun hsame => hid ⟨inner, hinner, hsame⟩
  · intro n m hcopy
    rw [Node.id?, Node.id?, hcopy.header_eq]

theorem IsInsertion.rel_atLocation? (h : IsInsertion u trees trees') {index index' : Index}
    (hindex : Index.ofForest trees = .ok index) (hindex' : Index.ofForest trees' = .ok index')
    {location : Location} (hlocation : ¬u.HasLocation location) :
    Option.Rel u.IsCopy (index.atLocation? location) (index'.atLocation? location) := by
  rw [Index.atLocation?_eq_find? hindex, Index.atLocation?_eq_find? hindex']
  apply h.isInterrupted_listing.reverse.related_find?
  · intro inner hinner
    apply beq_false_of_ne
    exact fun hsame => hlocation ⟨inner, List.mem_reverse.mp hinner, hsame⟩
  · intro n m hcopy
    rw [Node.location?, Node.location?, hcopy.header_eq]

/-- The ancestors that count are listed in the forest, so they are not looked for
inside the inserted subtree. -/
theorem IsInsertion.findAlike (h : IsInsertion u trees trees') {index index' : Index}
    (hindex : Index.ofForest trees = .ok index) (hindex' : Index.ofForest trees' = .ok index')
    (hids : ∀ id, u.HasId id → ¬ListsAncestor trees id)
    {locations : List Location}
    (hlocation : ∀ location ∈ locations.head?, ¬u.HasLocation location) :
    FindAlike id Failure.IsReportedLike u.IsCopy index.lookup index'.lookup locations where
  located location hfirst := h.rel_atLocation? hindex hindex' (hlocation location hfirst)
  referred contract ids hcontract hancestors i hi := by
    refine ⟨h.rel_withId? hindex hindex' ?_, Failure.IsReportedLike.refl _,
      Failure.IsReportedLike.refl _⟩
    intro hid
    obtain ⟨location, -, hfound⟩ := NodeLookup.exists_of_definition_eq_ok hcontract
    apply hids i hid
    exact ⟨contract, Index.mem_of_atLocation?_eq_some hindex hfound,
      Ancestry.listsAncestor_of_mem hancestors hi⟩

theorem map_id?_eq_of_isCopy {nodes nodes' : List Node} (h : List.Forall₂ u.IsCopy nodes nodes') :
    nodes'.map Node.id? = nodes.map Node.id? := by
  induction h with
  | nil => rfl
  | cons hcopy _ ih =>
      rw [List.map_cons, List.map_cons, ih, Node.id?, Node.id?, hcopy.header_eq]

/-- For the index of its ids a subtree may as well be a tree of its own. -/
theorem IsInsertion.isIndexable_iff (h : IsInsertion u trees trees') :
    IsIndexable trees' ↔ IsIndexable (u :: trees) := by
  apply isIndexable_congr
  obtain ⟨front, front', back, back', hlisting, hlisting', hfront, hback⟩ :=
    h.isInterrupted_listing
  rw [List.flatMap_cons, hlisting, hlisting', List.map_append, List.map_append,
    map_id?_eq_of_isCopy hfront, map_id?_eq_of_isCopy hback, List.map_append, List.map_append,
    List.append_assoc]
  exact List.perm_append_comm_assoc _ _ _

end Ast.Forest

/-- A subtree that is no storage variable can be inserted into a contract, or
behind the type of a declaration, without any change to the layouts: they have
the same variables, with the same texts, or fail with the same words.  No
contract may list an id of the subtree among its ancestors, and no node of the
subtree may stand where the creation code comes from.  If the subtree brings an
id beyond the digit limit that comes a second time, the forest loses its index. -/
theorem Layout.ofLocations_insertion {u : Node} {trees trees' : List Node}
    (hinsert : Forest.IsInsertion u trees trees')
    (hu : isStorageVariable u = false)
    (hids : ∀ id, u.HasId id → ¬Forest.ListsAncestor trees id)
    (reader : TypeReader) {locations : List Location}
    (hlocation : ∀ location ∈ locations.head?, ¬u.HasLocation location) :
    ((Forest.IsIndexable trees → Forest.IsIndexable (u :: trees)) →
      Related Eq Failure.IsReportedLike
        (inForest trees reader locations) (inForest trees' reader locations) ∧
      Related Eq Failure.IsReportedLike
        (textsInForest trees reader locations) (textsInForest trees' reader locations)) ∧
    (Forest.IsIndexable trees → ¬Forest.IsIndexable (u :: trees) →
      (∃ index, Index.ofForest trees = .ok index) ∧
        Index.ofForest trees' = .error .longNumber) := by
  have hiff := hinsert.isIndexable_iff
  constructor
  · intro hkeeps
    by_cases htrees : Forest.IsIndexable trees
    · obtain ⟨index, hindex⟩ := Index.exists_ofForest_eq_ok_iff.mpr htrees
      obtain ⟨index', hindex'⟩ := Index.exists_ofForest_eq_ok_iff.mpr (hiff.mpr (hkeeps htrees))
      have hcopies := isCorrespondence_isCopy hu
      have hfind := hinsert.findAlike hindex hindex' hids hlocation
      rw [inForest, inForest, textsInForest, textsInForest, hindex, hindex']
      refine ⟨?_, hcopies.texts reader hfind⟩
      apply (hcopies.ofLocations reader hfind).mono
      rintro ⟨name?, ids, contents⟩ ⟨name?', ids', contents'⟩ ⟨hname, hsame, hcontents⟩
      rw [List.map_id] at hsame
      simp only at hname hsame hcontents
      rw [hname, hsame, hcontents]
    · -- A forest without an index gets none by the insertion.
      have htrees' : ¬Forest.IsIndexable trees' := fun h => htrees (hiff.mp h).of_cons
      rw [inForest, inForest, textsInForest, textsInForest,
        Index.ofForest_eq_error_iff.mpr ⟨rfl, htrees⟩,
        Index.ofForest_eq_error_iff.mpr ⟨rfl, htrees'⟩]
      exact ⟨Failure.IsReportedLike.refl _, Failure.IsReportedLike.refl _⟩
  · intro htrees hlost
    exact ⟨Index.exists_ofForest_eq_ok_iff.mpr htrees,
      Index.ofForest_eq_error_iff.mpr ⟨rfl, fun h => hlost (hiff.mp h)⟩⟩

/-! ## A function put into a contract -/

namespace Layout

/-- A function with a local variable. -/
def tokenFunction : Node :=
  .mk ⟨some "FunctionDefinition", some 7, some (.str "20:40:0"), [("name", .str "close")]⟩
    [.mk ⟨some "VariableDeclaration", some 8, some (.str "30:9:0"), [("name", .str "was")]⟩ []]

theorem eq_two_of_listsAncestor {id : Int}
    (h : Forest.ListsAncestor [tokenSource [flagDeclaration "open"]] id) : id = 2 := by
  obtain ⟨n, hn, hlists⟩ := h
  rw [List.flatMap_singleton] at hn
  rcases hlists with hint | ⟨x, hfloat, -⟩
  · exact Json.int.inj (eq_int_two_of_listsBase hn hint)
  · cases eq_int_two_of_listsBase hn hfloat

theorem isInsertion_tokenSource (u : Node) :
    Forest.IsInsertion u [tokenSource [flagDeclaration "open"]]
      [tokenSource [flagDeclaration "open", u]] :=
  ⟨[], _, _, [], rfl, rfl, @Node.IsInsertion.inChild _ _ [] [] _ _
    (@Node.IsInsertion.here _ _ [_] [] (Or.inl rfl))⟩

/-- The function changes nothing, although it declares a variable of its own. -/
theorem ofLocations_insertion_tokenFunction :
    inForest [tokenSource [flagDeclaration "open", tokenFunction]]
        (fun name => .ok (.elementary name)) [⟨0, 80, 0⟩] =
      .ok ⟨some "Token", [2], [⟨"open", "Token", .ofValue (.elementary "bool")⟩]⟩ := by
  have hids : ∀ id, tokenFunction.HasId id →
      ¬Forest.ListsAncestor [tokenSource [flagDeclaration "open"]] id := by
    intro id hid hlists
    obtain rfl := eq_two_of_listsAncestor hlists
    exact absurd hid (by decide +kernel)
  have hlocation : ∀ location ∈ [(⟨0, 80, 0⟩ : Location)].head?,
      ¬tokenFunction.HasLocation location := by
    rintro location ⟨⟩ hlocation
    exact absurd hlocation (by decide +kernel)
  have hindexable :
      Forest.IsIndexable [tokenFunction, tokenSource [flagDeclaration "open"]] := by
    decide +kernel
  obtain ⟨hlayout, -⟩ := ofLocations_insertion (isInsertion_tokenSource tokenFunction) rfl hids
    (fun name => .ok (.elementary name)) hlocation
  obtain ⟨_, hlayout', rfl⟩ :=
    (hlayout fun _ => hindexable).1.exists_ok inForest_tokenSource
  exact hlayout'

/-- A function with two nodes of one id beyond the digit limit. -/
def longFunction : Node :=
  .mk ⟨some "FunctionDefinition", some Number.leastLong, none, []⟩
    [.mk ⟨some "Block", some Number.leastLong, none, []⟩ []]

/-- Not every subtree without a storage variable can be inserted, even if its ids and
locations are new. -/
theorem not_all_insertions_keep_layouts :
    ¬∀ (u : Node) (trees trees' : List Node) (reader : TypeReader) (locations : List Location),
      Forest.IsInsertion u trees trees' → isStorageVariable u = false →
      (∀ id, u.HasId id → ¬Forest.ListsAncestor trees id ∧ ∀ tree ∈ trees, ¬tree.HasId id) →
      (∀ location, u.HasLocation location → ∀ tree ∈ trees, ¬tree.HasLocation location) →
      (∀ location ∈ locations.head?, ¬u.HasLocation location) →
      Related Eq Failure.IsReportedLike (textsInForest trees reader locations)
        (textsInForest trees' reader locations) := by
  intro hall
  have hid : ∀ n ∈ longFunction.listing, n.id? = some Number.leastLong := by decide +kernel
  have hnowhere (location : Location) : ¬longFunction.HasLocation location := by
    have hnone : ∀ n ∈ longFunction.listing, n.location? = none := by decide +kernel
    rintro ⟨n, hn, h⟩
    rw [hnone n hn] at h
    cases h
  have hinsert := isInsertion_tokenSource longFunction
  have hlost : ¬Forest.IsIndexable [longFunction, tokenSource [flagDeclaration "open"]] := by
    decide +kernel
  have hrelated := hall longFunction _ _ (fun name => .ok (.elementary name)) [⟨0, 80, 0⟩]
    hinsert rfl ?_ (fun location h => (hnowhere location h).elim) fun location _ =>
      hnowhere location
  · have htexts : textsInForest [tokenSource [flagDeclaration "open"]]
        (fun name => .ok (.elementary name)) [⟨0, 80, 0⟩] =
          .ok ["open (Token)\n  Type: bool"] := by
      rw [textsInForest_eq_bind, inForest_tokenSource]
      rfl
    obtain ⟨texts', htexts', -⟩ := hrelated.exists_ok htexts
    rw [textsInForest, Index.ofForest_eq_error_iff.mpr
      ⟨rfl, fun h => hlost (hinsert.isIndexable_iff.mp h)⟩] at htexts'
    cases htexts'
  · -- The id is neither the one ancestor that is listed nor the id of a node.
    rintro id ⟨n, hn, h⟩
    obtain rfl : Number.leastLong = id := Option.some.inj ((hid n hn).symm.trans h)
    have htwo : Number.leastLong ≠ 2 := by decide +kernel
    refine ⟨fun hlists => htwo (eq_two_of_listsAncestor hlists), ?_⟩
    intro tree htree
    obtain rfl := List.mem_singleton.mp htree
    decide +kernel

end Layout

end SolidityLayout
