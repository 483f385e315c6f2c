import Mathlib.Data.List.Forall2
import SolidityLayout.Proofs.Ast.Listing
import SolidityLayout.Proofs.Contract.Inheritance
import SolidityLayout.Proofs.Failure.Comparison
import SolidityLayout.Proofs.Slot.Classification

/-!
# Corresponding forests

A layout looks at few things of a node: its tag, its attributes, the parts of a
type, the first child of a declaration and the declarations inside a contract.
A relation between the nodes of two forests that respects these is a
correspondence, and it carries over to whole layouts: from corresponding
definitions, and with corresponding nodes under the ids of the ancestors, either
the same variables come out or failures that count as the same.
-/

namespace SolidityLayout

open Ast Attempt

theorem Ast.Node.rel_head? {R : Node → Node → Prop} {nodes others : List Node}
    (h : List.Forall₂ R nodes others) : Option.Rel R nodes.head? others.head? := by
  cases h with
  | nil => exact .none
  | cons hfirst _ => exact .some hfirst

theorem NodeLookup.exists_of_definition_eq_ok {lookup : NodeLookup}
    {locations : List Location} {contract : Node}
    (h : lookup.definition locations = .ok contract) :
    ∃ location ∈ locations.head?, lookup.atLocation? location = some contract := by
  cases locations with
  | nil => cases h
  | cons location rest =>
      refine ⟨location, rfl, ?_⟩
      cases hfound : lookup.atLocation? location with
      | none => simp [definition, hfound] at h
      | some n =>
          simp only [definition, hfound] at h
          obtain ⟨-, ⟨⟩⟩ := noting_eq_ok_iff.mp h
          rfl

namespace Layout

theorem ofLocations_eq_bind (lookup : NodeLookup) (reader : TypeReader)
    (locations : List Location) :
    ofLocations lookup reader locations =
      (lookup.definition locations).bind fun contract =>
        (Ancestry.ofContract contract).bind fun ids =>
          (ids.mapM (variablesOf lookup reader)).map fun groups =>
            ⟨contract.name?, ids, groups.flatten⟩ := by
  rw [ofLocations]
  cases lookup.definition locations with
  | error failure => rfl
  | ok contract =>
      simp only [Except.bind]
      cases Ancestry.ofContract contract <;> rfl

end Layout

/-- A cause that consists of words and the label of a node. -/
structure MalformedTree.IsAbout (cause : Node → MalformedTree) : Prop where
  isShowable_eq : ∀ node, (cause node).isShowable = node.isShowable
  message_eq : ∃ words, ∀ node, (cause node).message = words ++ node.label

namespace MalformedTree.IsAbout

variable {cause : Node → MalformedTree} {n m : Node}

theorem isOfKindOf (h : IsAbout cause) (hshow : m.isShowable = n.isShowable) :
    (LayoutError.failure (.malformedTree (cause n))).IsOfKindOf
      (LayoutError.failure (.malformedTree (cause m))) := by
  apply LayoutError.isOfKindOf_failure
  · exact ((h.isShowable_eq m).trans hshow).trans (h.isShowable_eq n).symm
  · rfl

theorem isReportedLike (h : IsAbout cause) (hshow : m.isShowable = n.isShowable)
    (hlabel : m.label = n.label) :
    (LayoutError.failure (.malformedTree (cause n))).IsReportedLike
      (LayoutError.failure (.malformedTree (cause m))) := by
  apply LayoutError.isReportedLike_failure
  · exact ((h.isShowable_eq m).trans hshow).trans (h.isShowable_eq n).symm
  · rfl
  · obtain ⟨words, hwords⟩ := h.message_eq
    have hmessage : (cause m).message = (cause n).message := by
      rw [hwords, hwords, hlabel]
    exact congrArg (fun text => "malformed AST: " ++ text) hmessage

end MalformedTree.IsAbout

/-- A relation between nodes that a layout cannot see through.  The ids of
ancestors may be renamed, and `same` says which failures count as the same. -/
structure IsCorrespondence
    (rename : Int → Int) (same : Failure → Failure → Prop)
    (related : Node → Node → Prop) : Prop where
  same_refl : ∀ failure, same failure failure
  same_of_isAbout : ∀ {n m cause}, related n m → MalformedTree.IsAbout cause →
    same (LayoutError.failure (.malformedTree (cause n)))
      (LayoutError.failure (.malformedTree (cause m)))
  isShowable_eq : ∀ {n m}, related n m → m.isShowable = n.isShowable
  tag?_eq : ∀ {n m}, related n m → m.tag? = n.tag?
  attribute?_eq : ∀ {n m key}, related n m → key ≠ "linearizedBaseContracts" →
    m.attribute? key = n.attribute? key
  ancestors : ∀ {n m}, related n m →
    Related (fun ids others => others = ids.map rename) same
      (Ancestry.ofContract n) (Ancestry.ofContract m)
  typeParts : ∀ {n m}, related n m →
    n.tag? = some "Mapping" ∨ n.tag? = some "ArrayTypeName" →
    List.Forall₂ related n.children m.children
  declaredType : ∀ {n m}, related n m → n.tag? = some "VariableDeclaration" →
    Option.Rel related n.children.head? m.children.head?
  declarations : ∀ {n m}, related n m →
    List.Forall₂ related (n.children.filter isStorageVariable)
      (m.children.filter isStorageVariable)

/-- Two lookups refer alike to the ancestor with an id: under the id and under
the renamed one they find corresponding nodes, and failures that name the one or
the other count as the same. -/
structure RefersAlike
    (rename : Int → Int) (same : Failure → Failure → Prop)
    (related : Node → Node → Prop) (lookup other : NodeLookup) (id : Int) : Prop where
  found : Option.Rel related (lookup.withId? id) (other.withId? (rename id))
  missing : same (LayoutError.failure (.missingNode id))
    (LayoutError.failure (.missingNode (rename id)))
  nameless : same (LayoutError.failure (.malformedTree (.contractWithoutName id)))
    (LayoutError.failure (.malformedTree (.contractWithoutName (rename id))))

/-- For the creation code from given locations two lookups find corresponding
definitions, and they refer alike to all ancestors that the first one has. -/
structure FindAlike
    (rename : Int → Int) (same : Failure → Failure → Prop)
    (related : Node → Node → Prop) (lookup other : NodeLookup)
    (locations : List Location) : Prop where
  located : ∀ location ∈ locations.head?,
    Option.Rel related (lookup.atLocation? location) (other.atLocation? location)
  referred : ∀ contract ids, lookup.definition locations = .ok contract →
    Ancestry.ofContract contract = .ok ids →
    ∀ id ∈ ids, RefersAlike rename same related lookup other id

namespace IsCorrespondence

variable {rename : Int → Int} {same : Failure → Failure → Prop}
variable {related : Node → Node → Prop} {n m : Node}

theorem textAttribute?_eq (h : IsCorrespondence rename same related) {key : String}
    (hnm : related n m) (hkey : key ≠ "linearizedBaseContracts") :
    m.textAttribute? key = n.textAttribute? key := by
  rw [Node.textAttribute?, Node.textAttribute?, h.attribute?_eq hnm hkey]

theorem name?_eq (h : IsCorrespondence rename same related) (hnm : related n m) :
    m.name? = n.name? :=
  h.textAttribute?_eq hnm (by decide)

/-! ## Types -/

theorem arrayLength (h : IsCorrespondence rename same related) (hnm : related n m) :
    Related Eq same (ArrayLength.ofNode n) (ArrayLength.ofNode m) := by
  have hvalue : m.attribute? "value" = n.attribute? "value" :=
    h.attribute?_eq hnm (by decide)
  have htagged : m.isTagged "Literal" = n.isTagged "Literal" := by
    rw [Node.isTagged, Node.isTagged, h.tag?_eq hnm]
  rw [ArrayLength.ofNode, ArrayLength.ofNode, htagged, hvalue]
  split
  · exact h.same_of_isAbout hnm ⟨fun _ => rfl, _, fun _ => rfl⟩
  · split
    · exact h.same_of_isAbout hnm ⟨fun _ => rfl, _, fun _ => rfl⟩
    · exact h.same_of_isAbout hnm ⟨fun _ => rfl, _, fun _ => rfl⟩
    · exact .of_eq h.same_refl rfl

theorem ofLeaf (h : IsCorrespondence rename same related) (reader : TypeReader)
    (hnm : related n m) :
    Related Eq same
      (AbiType.ofLeaf reader n.header) (AbiType.ofLeaf reader m.header) := by
  have htag : m.header.tag? = n.header.tag? := h.tag?_eq hnm
  have htype : m.header.attributes.get? "type" = n.header.attributes.get? "type" :=
    h.attribute?_eq hnm (by decide)
  have hshow : m.header.isShowable = n.header.isShowable := h.isShowable_eq hnm
  have hunknown : AbiType.ofUnknown m.header = AbiType.ofUnknown n.header := by
    rw [AbiType.ofUnknown, AbiType.ofUnknown, htag, hshow]
  apply Related.of_eq h.same_refl
  rw [AbiType.ofLeaf, AbiType.ofLeaf, htag, htype, hunknown]

theorem valueType (h : IsCorrespondence rename same related) (reader : TypeReader)
    {n m : Node} (hnm : related n m) :
    Related Eq same (AbiType.ofNode reader n) (AbiType.ofNode reader m) := by
  obtain ⟨header, children⟩ := n
  obtain ⟨header', children'⟩ := m
  have htag : header'.tag? = header.tag? := h.tag?_eq hnm
  have hleaf := h.ofLeaf reader hnm
  by_cases harray : header.tag? = some "ArrayTypeName"
  · have harray' : header'.tag? = some "ArrayTypeName" := htag.trans harray
    have hchildren : List.Forall₂ related children children' :=
      h.typeParts hnm (Or.inr harray)
    -- The children are an element, an element and a length, or no parts of an array.
    match children, children', hchildren with
    | [], [], _ =>
        rw [AbiType.ofNode_of_length_ne (by simp) (by simp),
          AbiType.ofNode_of_length_ne (by simp) (by simp)]
        exact hleaf
    | [element], [element'], .cons helement .nil =>
        rw [AbiType.ofNode_dynamicArray harray, AbiType.ofNode_dynamicArray harray']
        exact (valueType h reader helement).map fun _ _ => congrArg _
    | [element, size], [element', size'], .cons helement (.cons hsize .nil) =>
        rw [AbiType.ofNode_fixedArray harray, AbiType.ofNode_fixedArray harray']
        apply (h.arrayLength hsize).bind
        rintro length _ - rfl
        exact (valueType h reader helement).map fun _ _ => congrArg _
    | _ :: _ :: _ :: _, _ :: _ :: _ :: _, _ =>
        rw [AbiType.ofNode_of_length_ne (by simp) (by simp),
          AbiType.ofNode_of_length_ne (by simp) (by simp)]
        exact hleaf
  · have harray' : header'.tag? ≠ some "ArrayTypeName" := by
      rwa [htag]
    rw [AbiType.ofNode_of_tag_ne harray, AbiType.ofNode_of_tag_ne harray']
    exact hleaf

theorem slotType (h : IsCorrespondence rename same related) (reader : TypeReader)
    {n m : Node} (hnm : related n m) :
    Related Eq same (SlotType.ofNode reader n) (SlotType.ofNode reader m) := by
  have hvalue := h.valueType reader hnm
  obtain ⟨header, children⟩ := n
  obtain ⟨header', children'⟩ := m
  have htag' : header'.tag? = header.tag? := h.tag?_eq hnm
  cases htag : header.tag? with
  | none =>
      rw [SlotType.ofNode_of_tag_none htag,
        SlotType.ofNode_of_tag_none (htag'.trans htag)]
      exact h.same_of_isAbout hnm ⟨fun _ => rfl, _, fun _ => rfl⟩
  | some tag =>
      rw [htag] at htag'
      by_cases hmapping : tag = "Mapping"
      · subst hmapping
        have hchildren : List.Forall₂ related children children' :=
          h.typeParts hnm (Or.inl htag)
        by_cases htwo : children.length = 2
        · match children, children', hchildren with
          | [key, inner], [key', inner'], .cons hkey (.cons hinner .nil) =>
              rw [SlotType.ofNode_mapping htag, SlotType.ofNode_mapping htag']
              apply (slotType h reader hkey).bind
              rintro k _ - rfl
              apply (slotType h reader hinner).bind
              rintro t _ - rfl
              exact .of_eq h.same_refl rfl
        · have hlength := hchildren.length_eq
          rw [SlotType.ofNode_mapping_of_length_ne htag htwo,
            SlotType.ofNode_mapping_of_length_ne htag' (by rwa [← hlength]), ← hlength]
          exact h.same_refl _
      · rw [SlotType.ofNode_of_tag_ne htag hmapping,
          SlotType.ofNode_of_tag_ne htag' hmapping]
        exact hvalue.map fun _ _ => congrArg _

theorem declaration (h : IsCorrespondence rename same related) (reader : TypeReader)
    (hnm : related n m) (htag : n.tag? = some "VariableDeclaration") :
    Related Eq same
      (SlotType.ofDeclaration reader n) (SlotType.ofDeclaration reader m) := by
  have htype := h.declaredType hnm htag
  rw [SlotType.ofDeclaration_eq_head?, SlotType.ofDeclaration_eq_head?]
  generalize n.children.head? = type, m.children.head? = type' at htype
  cases htype with
  | none => exact h.same_of_isAbout hnm ⟨fun _ => rfl, _, fun _ => rfl⟩
  | some hrelated => exact h.slotType reader hrelated

/-! ## Variables -/

theorem variableOf (h : IsCorrespondence rename same related) (reader : TypeReader)
    (owner : String) (hnm : related n m) (hn : isStorageVariable n = true) :
    Related Eq same
      (StorageVariable.ofDeclaration reader owner n)
      (StorageVariable.ofDeclaration reader owner m) := by
  have htag : n.tag? = some "VariableDeclaration" := by
    rw [isStorageVariable, Bool.and_eq_true, Bool.and_eq_true] at hn
    exact beq_iff_eq.mp hn.1.1
  rw [StorageVariable.ofDeclaration, StorageVariable.ofDeclaration, h.name?_eq hnm]
  cases n.name? with
  | none => exact h.same_of_isAbout hnm ⟨fun _ => rfl, _, fun _ => rfl⟩
  | some name => exact (h.declaration reader hnm htag).map fun _ _ => congrArg _

theorem variablesOf (h : IsCorrespondence rename same related) (reader : TypeReader)
    {lookup other : NodeLookup} {id : Int}
    (hid : RefersAlike rename same related lookup other id) :
    Related Eq same
      (Layout.variablesOf lookup reader id) (Layout.variablesOf other reader (rename id)) := by
  obtain ⟨hfound, hmissing, hnameless⟩ := hid
  rw [Layout.variablesOf, Layout.variablesOf, NodeLookup.storageVariables,
    NodeLookup.storageVariables]
  generalize lookup.withId? id = found, other.withId? (rename id) = found' at hfound
  cases hfound with
  | none => exact hmissing
  | @some n m hnm =>
      simp only [h.name?_eq hnm]
      cases n.name? with
      | none => exact hnameless
      | some owner =>
          have hdeclared := Related.mapM (h.declarations hnm) fun d hd e hde =>
            h.variableOf reader owner hde (List.mem_filter.mp hd).2
          rwa [List.forall₂_eq_eq_eq] at hdeclared

/-! ## Layouts -/

theorem definition (h : IsCorrespondence rename same related)
    {lookup other : NodeLookup} {locations : List Location}
    (hfind : FindAlike rename same related lookup other locations) :
    Related related same (lookup.definition locations) (other.definition locations) := by
  cases locations with
  | nil => exact h.same_refl _
  | cons location rest =>
      have hfound := hfind.located location rfl
      rw [NodeLookup.definition, NodeLookup.definition]
      generalize lookup.atLocation? location = found,
        other.atLocation? location = found' at hfound
      cases hfound with
      | none => exact h.same_refl _
      | some hnm => exact Related.noting (h.isShowable_eq hnm) (h.same_refl _) hnm

/-- Where corresponding nodes are found, layouts end alike. -/
theorem ofLocations (h : IsCorrespondence rename same related) (reader : TypeReader)
    {lookup other : NodeLookup} {locations : List Location}
    (hfind : FindAlike rename same related lookup other locations) :
    Related
      (fun layout layout' => layout'.contract? = layout.contract? ∧
        layout'.ancestors = layout.ancestors.map rename ∧
        layout'.contents = layout.contents) same
      (Layout.ofLocations lookup reader locations)
      (Layout.ofLocations other reader locations) := by
  rw [Layout.ofLocations_eq_bind, Layout.ofLocations_eq_bind]
  apply (h.definition hfind).bind
  intro contract contract' hcontract hrelated
  apply (h.ancestors hrelated).bind
  rintro ids _ hancestors rfl
  have hrenamed : List.Forall₂ (fun id id' => id' = rename id) ids (ids.map rename) := by
    rw [List.forall₂_map_right_iff, List.forall₂_same]
    exact fun _ _ => rfl
  have hgroups := Related.mapM hrenamed fun id hid id' hid' => by
    subst hid'
    exact h.variablesOf reader (hfind.referred contract ids hcontract hancestors id hid)
  rw [List.forall₂_eq_eq_eq] at hgroups
  apply hgroups.map
  rintro groups _ rfl
  exact ⟨h.name?_eq hrelated, rfl, rfl⟩

theorem texts (h : IsCorrespondence rename same related) (reader : TypeReader)
    {lookup other : NodeLookup} {locations : List Location}
    (hfind : FindAlike rename same related lookup other locations) :
    Related Eq same (Layout.texts lookup reader locations)
      (Layout.texts other reader locations) := by
  rw [Layout.texts_eq_bind, Layout.texts_eq_bind]
  apply (h.ofLocations reader hfind).bind
  rintro layout layout' - ⟨-, -, hcontents⟩
  apply Related.of_eq h.same_refl
  rw [Layout.render, Layout.render, hcontents]

end IsCorrespondence

/-! ## A contract in a source file -/

namespace Layout

/-- The definition of a contract with the given members. -/
def tokenContract (members : List Node) : Node :=
  .mk ⟨some "ContractDefinition", some 2, some (.str "0:80:0"),
    [("name", .str "Token"), ("linearizedBaseContracts", .arr [.int 2])]⟩ members

/-- A source file that holds one contract. -/
def tokenSource (members : List Node) : Node :=
  .mk ⟨some "SourceUnit", some 1, some (.str "0:99:0"), []⟩ [tokenContract members]

theorem listing_tokenSource :
    (tokenSource [flagDeclaration "open"]).listing =
      [tokenSource [flagDeclaration "open"], tokenContract [flagDeclaration "open"],
        flagDeclaration "open",
        .mk ⟨some "ElementaryTypeName", none, none, [("type", .str "bool")]⟩ []] :=
  rfl

theorem eq_int_two_of_listsBase {n : Node} {entry : Json}
    (hn : n ∈ (tokenSource [flagDeclaration "open"]).listing) (h : n.ListsBase entry) :
    entry = .int 2 := by
  obtain ⟨entries, hlisted, hentry⟩ := h
  rw [listing_tokenSource] at hn
  simp only [List.mem_cons, List.not_mem_nil, or_false] at hn
  rcases hn with rfl | rfl | rfl | rfl
  · cases hlisted
  · cases hlisted
    exact List.mem_singleton.mp hentry
  · cases hlisted
  · cases hlisted

theorem isShowable_tokenContract (members : List Node) :
    (tokenContract members).isShowable = true := by
  have hid : Number.isShowable 2 = true := by decide +kernel
  simp [tokenContract, Node.isShowable, Node.header, Header.isShowable, hid, Json.isShowable]

theorem ofLocations_tokenContract {lookup : NodeLookup} {location : Location}
    {members : List Node}
    (hlocated : lookup.atLocation? location = some (tokenContract members))
    (hfound : lookup.withId? 2 = some (tokenContract [flagDeclaration "open"])) :
    ofLocations lookup (fun name => .ok (.elementary name)) [location] =
      .ok ⟨some "Token", [2], [⟨"open", "Token", .ofValue (.elementary "bool")⟩]⟩ :=
  ofLocations_of_lone hlocated (isShowable_tokenContract members) rfl (by decide +kernel)
    ⟨_, _, hfound, rfl, .cons ⟨rfl, rfl, rfl⟩ .nil⟩

theorem isIndexable_tokenSource : Forest.IsIndexable [tokenSource [flagDeclaration "open"]] := by
  decide +kernel

theorem inForest_tokenSource :
    inForest [tokenSource [flagDeclaration "open"]] (fun name => .ok (.elementary name))
        [⟨0, 80, 0⟩] =
      .ok ⟨some "Token", [2], [⟨"open", "Token", .ofValue (.elementary "bool")⟩]⟩ := by
  obtain ⟨index, hindex⟩ := Index.exists_ofForest_eq_ok_iff.mpr isIndexable_tokenSource
  rw [inForest, hindex]
  exact ofLocations_tokenContract (Index.atLocation?_eq_find? hindex _)
    (Index.withId?_eq_find? hindex _)

end Layout

end SolidityLayout
