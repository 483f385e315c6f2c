import SolidityLayout.Proofs.Ast.Listing
import SolidityLayout.Proofs.Contract.Inheritance
import SolidityLayout.Proofs.Slot.Excess
import SolidityLayout.Proofs.Source.Numbers

/-!
# Failures of layouts

A run over several contracts survives the errors of a layout computation and
nothing else.  Every other failure of a layout comes from a number beyond a
limit, and that number stands in a node of the syntax trees that are indexed.
-/

namespace SolidityLayout

open Ast Number Attempt

/-! ## Ancestors -/

theorem Json.isShowable_arr_iff {items : List Json} :
    (Json.arr items).isShowable = true ↔ ∀ v ∈ items, v.isShowable = true := by
  rw [isShowable]
  induction items with
  | nil => simp [areShowable]
  | cons v rest ih => rw [areShowable, Bool.and_eq_true, ih, List.forall_mem_cons]

/-- What keeps an entry of the list of ancestors from being an id. -/
theorem Ancestry.admits_of_idOfEntry_eq_error
    {contract : Node} {entries : List Json} {entry : Json} {failure : Failure}
    (hlisted : contract.attribute? "linearizedBaseContracts" = some (.arr entries))
    (hentry : entry ∈ entries) (h : idOfEntry entry = .error failure) :
    contract.Admits failure := by
  -- An entry that cannot be shown keeps the whole list from being shown.
  have hlong (hshow : entry.isShowable = false) : contract.Exceeds .longNumber := by
    refine .attribute hlisted (Bool.eq_false_iff.mpr fun hall => ?_)
    rw [Json.isShowable_arr_iff.mp hall entry hentry] at hshow
    cases hshow
  unfold idOfEntry at h
  split at h
  · split at h
    · rename_i hlarge
      cases h
      exact (Node.Exceeds.ancestor hlisted hentry hlarge).admits
    · cases h
  · split at h
    · cases h
    · cases h
      exact Node.admits_failure hlong
  · cases h
    exact Node.admits_failure hlong

theorem Ancestry.admits_of_ofContract_eq_error {contract : Node} {failure : Failure}
    (h : ofContract contract = .error failure) : contract.Admits failure := by
  have hnoted : contract.Bounds (fun _ : List Int => True)
      (noting contract.isShowable (.ok [])) := Node.bounds_noting (Or.inl trivial)
  unfold ofContract at h
  split at h
  · exact hnoted.of_eq_error h
  · exact hnoted.of_eq_error h
  · rename_i entries hlisted
    rw [← failure?_eq_some_iff, failure?_map, failure?_mapM] at h
    obtain ⟨entry, hentry, hfailure⟩ := List.exists_of_findSome?_eq_some h
    exact admits_of_idOfEntry_eq_error hlisted hentry
      (failure?_eq_some_iff.mp hfailure)
  · rename_i value _ _ hvalue
    cases h
    exact Node.admits_failure fun hshow => .attribute hvalue hshow

/-! ## Layouts -/

namespace StorageVariable

theorem bounds_ofDeclaration (owner : String) (declaration : Node) :
    declaration.Bounds (fun v => v.type.isShowable = true)
      (ofDeclaration Abi.readName owner declaration) := by
  unfold ofDeclaration
  split
  · exact Node.admits_failure fun hshow => .label hshow
  · exact Node.Bounds.map (SlotType.bounds_ofDeclaration declaration)

theorem render_eq_error {v : StorageVariable} {failure : Failure}
    (h : v.render = .error failure) :
    failure = .longNumber ∧ v.type.isShowable = false := by
  unfold render SlotType.render at h
  split at h
  · cases h
  · rename_i hshow
    cases h
    exact ⟨rfl, Bool.eq_false_iff.mpr hshow⟩

end StorageVariable

namespace Layout

/-- A failure is an error of a layout computation, or some node of a forest
accounts for it. -/
def AdmitsFailure (trees : List Node) (failure : Failure) : Prop :=
  (∃ error, failure = .layout error) ∨
    ∃ tree ∈ trees, ∃ node : Node, node.IsWithin tree ∧ node.Exceeds failure

variable {trees : List Node} {node : Node} {failure : Failure}

theorem admitsFailure_of_isWithin
    (hnode : ∃ tree ∈ trees, node.IsWithin tree) (h : node.Admits failure) :
    AdmitsFailure trees failure := by
  obtain ⟨tree, htree, hwithin⟩ := hnode
  exact (h.of_isWithin hwithin).imp_right fun hexcess => ⟨tree, htree, hexcess⟩

/-- A forest without an index has an id that cannot be shown. -/
theorem admitsFailure_of_not_isIndexable (h : ¬Forest.IsIndexable trees) :
    AdmitsFailure trees .longNumber := by
  by_contra hnone
  apply h
  apply Forest.isIndexable_of_isShowable
  intro id hid
  obtain ⟨node, hnode, hown⟩ := List.mem_map.mp hid
  by_contra hlong
  obtain ⟨tree, htree, hwithin⟩ := Forest.mem_listing_iff.mp hnode
  refine hnone (Or.inr ⟨tree, htree, node, hwithin, .label (Bool.eq_false_iff.mpr ?_)⟩)
  exact fun hshow => hlong (Node.isShowable_of_id?_eq_some hshow hown)

section OfForest

variable {index : Index} (hindex : Index.ofForest trees = .ok index)

include hindex

theorem ends_variablesOf {id : Int} (hid : Number.isShowable id = true) :
    Ends
      (fun vs => ∀ v ∈ vs,
        v.type.isShowable = true ∨ AdmitsFailure trees .longNumber)
      (AdmitsFailure trees)
      (variablesOf index.lookup Abi.readName id) := by
  unfold variablesOf NodeLookup.storageVariables
  cases hnode : index.lookup.withId? id with
  | none =>
      have hmissing : (LayoutError.missingNode id).failure =
          .layout (.missingNode id) := if_pos hid
      exact Or.inl ⟨_, hmissing⟩
  | some contract =>
      cases hname : contract.name? with
      | none =>
          have hunnamed : (LayoutError.malformedTree (.contractWithoutName id)).failure =
              .layout (.malformedTree (.contractWithoutName id)) := if_pos hid
          simp only [hname]
          exact Or.inl ⟨_, hunnamed⟩
      | some owner =>
          simp only [hname]
          apply Ends.mapM
          intro declaration hdeclaration
          have hchild : declaration.IsWithin contract :=
            Node.isWithin_of_mem_children (List.mem_of_mem_filter hdeclaration)
          have hcontract := Index.isWithin_of_withId?_eq_some hindex hnode
          have hdeclared :=
            (StorageVariable.bounds_ofDeclaration owner declaration).of_isWithin hchild
          exact hdeclared.mono
            (fun _ hv => hv.imp_right (admitsFailure_of_isWithin hcontract))
            fun _ => admitsFailure_of_isWithin hcontract

theorem ends_definition {locations : List Location}
    (hlocations : ∀ location ∈ locations, location.isShowable = true) :
    Ends (fun contract => ∃ tree ∈ trees, contract.IsWithin tree)
      (AdmitsFailure trees) (index.lookup.definition locations) := by
  unfold NodeLookup.definition
  split
  · exact Or.inl ⟨_, rfl⟩
  · rename_i location rest
    split
    · rename_i contract hcontract
      have hwithin := Index.isWithin_of_atLocation?_eq_some hindex hcontract
      cases hshow : contract.isShowable with
      | true => exact hwithin
      | false => exact admitsFailure_of_isWithin hwithin (Node.Exceeds.label hshow).admits
    · have hmissing : (LayoutError.missingDefinition (.noNodeAt location)).failure =
          .layout (.missingDefinition (.noNodeAt location)) :=
        if_pos (hlocations location (by simp))
      exact Or.inl ⟨_, hmissing⟩

theorem ends_ofLocations {locations : List Location}
    (hlocations : ∀ location ∈ locations, location.isShowable = true) :
    Ends
      (fun layout => ∀ v ∈ layout.contents,
        v.type.isShowable = true ∨ AdmitsFailure trees .longNumber)
      (AdmitsFailure trees)
      (ofLocations index.lookup Abi.readName locations) := by
  have hdefinition := ends_definition hindex hlocations
  unfold ofLocations
  split
  · rename_i failure hfailure
    exact hdefinition.of_eq_error hfailure
  · rename_i contract hcontract
    have hwithin := hdefinition.of_eq_ok hcontract
    split
    · rename_i failure hfailure
      exact admitsFailure_of_isWithin hwithin
        (Ancestry.admits_of_ofContract_eq_error hfailure)
    · rename_i ids hids
      have hshow := Ancestry.isShowable_of_mem_ofContract hids
      have hgroups := Ends.mapM fun id hid => ends_variablesOf hindex (hshow id hid)
      refine (hgroups.mono ?_ fun _ => id).map
      intro groups hall v hv
      obtain ⟨group, hgroup, hmem⟩ := List.mem_flatten.mp hv
      exact hall group hgroup v hmem

/-- A layout whose texts cannot be given fails with an error of a layout
computation, or some node of the forest accounts for the failure. -/
theorem admitsFailure_of_texts {locations : List Location}
    (hlocations : ∀ location ∈ locations, location.isShowable = true)
    (h : texts index.lookup Abi.readName locations = .error failure) :
    AdmitsFailure trees failure := by
  have hlayout := ends_ofLocations hindex hlocations
  unfold texts at h
  split at h
  · rename_i hfailure
    cases h
    exact hlayout.of_eq_error hfailure
  · rename_i layout hok
    rw [render, ← failure?_eq_some_iff, failure?_mapM] at h
    obtain ⟨v, hv, hfailure⟩ := List.exists_of_findSome?_eq_some h
    obtain ⟨rfl, hlong⟩ :=
      StorageVariable.render_eq_error (failure?_eq_some_iff.mp hfailure)
    rcases hlayout.of_eq_ok hok v hv with hshow | hadmits
    · rw [hlong] at hshow
      cases hshow
    · exact hadmits

end OfForest

/-- The same holds if the index of the forest is yet to be built. -/
theorem admitsFailure_of_textsInForest {locations : List Location}
    (hlocations : ∀ location ∈ locations, location.isShowable = true)
    (h : textsInForest trees Abi.readName locations = .error failure) :
    AdmitsFailure trees failure := by
  rw [textsInForest] at h
  rcases bind_eq_error_iff.mp h with hindex | ⟨index, hindex, htexts⟩
  · obtain ⟨rfl, hshared⟩ := Index.ofForest_eq_error_iff.mp hindex
    exact admitsFailure_of_not_isIndexable hshared
  · exact admitsFailure_of_texts hindex hlocations htexts

/-- Every failure of the layout of a contract is an error of a layout
computation, unless a node of the syntax trees holds a number beyond a limit: an
ancestor's id outside the range of floating-point numbers, or a number in a type
name, an array length or elsewhere beyond the digit limit.  The index of the trees
fails for no other reason. -/
theorem failure_isLayoutError_or_exceeds
    (roots : List Json) (sourceMap : String) {entries : List SourceMapEntry}
    (hentries : SourceMap.decode sourceMap = .ok entries) {failure : Failure}
    (hfailure : textsInForest (roots.map Node.ofJson) Abi.readName
      (entries.map (·.location)) = .error failure) :
    (∃ error, failure = .layout error) ∨
      ∃ root ∈ roots, ∃ node : Node,
        node.IsWithin (.ofJson root) ∧ node.Exceeds failure := by
  have hshow := SourceMap.isShowable_of_decode hentries
  have hlocations : ∀ location ∈ entries.map (·.location),
      location.isShowable = true := by
    intro location hlocation
    obtain ⟨entry, hentry, rfl⟩ := List.mem_map.mp hlocation
    exact hshow entry hentry
  refine (admitsFailure_of_textsInForest hlocations hfailure).imp_right ?_
  rintro ⟨tree, htree, node, hwithin, hexceeds⟩
  obtain ⟨root, hroot, rfl⟩ := List.mem_map.mp htree
  exact ⟨root, hroot, node, hwithin, hexceeds⟩

/-! ## A contract with an id out of range -/

/-- A contract without variables that lists its own id alone. -/
def loneContract (id : Int) : Json :=
  .obj [("id", .int id), ("name", .str "ContractDefinition"), ("src", .str "0:9:0"),
    ("attributes", .obj [("name", .str "Token"),
      ("linearizedBaseContracts", .arr [.int id])])]

/-- The power of two next to the largest floating-point numbers. -/
def remoteId : Int := Int.ofNat (Nat.pow 2 1024)

theorem isTooLarge_remoteId : Binary64.isTooLarge remoteId = true := by
  decide +kernel

theorem ofContract_loneContract {id : Int} (hlarge : Binary64.isTooLarge id = true) :
    Ancestry.ofContract (.ofJson (loneContract id)) = .error .tooLarge := by
  have hentry : [Json.int id].mapM Ancestry.idOfEntry = .error .tooLarge := by
    rw [List.mapM_cons, Ancestry.idOfEntry, if_pos hlarge]
    rfl
  have hlisted : (Node.ofJson (loneContract id)).attribute? "linearizedBaseContracts" =
      some (.arr [.int id]) := rfl
  rw [Ancestry.ofContract_of_listed hlisted, hentry]
  rfl

/-- An id outside the range of floating-point numbers is no error of a layout
computation, although it can be shown. -/
theorem texts_loneContract_remoteId :
    (∃ index, Index.ofForest [.ofJson (loneContract remoteId)] = .ok index) ∧
      textsInForest [.ofJson (loneContract remoteId)] Abi.readName [⟨0, 9, 0⟩] =
        .error .tooLarge := by
  have hindexable : Forest.IsIndexable [.ofJson (loneContract remoteId)] := by
    decide +kernel
  obtain ⟨index, hindex⟩ := Index.exists_ofForest_eq_ok_iff.mpr hindexable
  have hdefinition : index.lookup.definition [⟨0, 9, 0⟩] = .ok (.ofJson (loneContract remoteId)) :=
    definition_of_located (Index.atLocation?_eq_find? hindex _) (by decide +kernel)
  refine ⟨⟨index, hindex⟩, ?_⟩
  rw [textsInForest, hindex]
  change texts index.lookup Abi.readName [⟨0, 9, 0⟩] = _
  rw [texts, ofLocations, hdefinition]
  simp only [ofContract_loneContract isTooLarge_remoteId]

theorem decode_loneLocation :
    SourceMap.decode "0:9:0" = .ok [⟨⟨0, 9, 0⟩, "-", 0⟩] := by
  rfl

/-- The failure of a contract with an id out of range is traced to a node. -/
theorem failure_isLayoutError_or_exceeds_remoteId :
    SourceMap.decode "0:9:0" = .ok [⟨⟨0, 9, 0⟩, "-", 0⟩] ∧
    textsInForest [.ofJson (loneContract remoteId)] Abi.readName [⟨0, 9, 0⟩] =
      .error .tooLarge ∧
    ∃ node : Node, node.IsWithin (.ofJson (loneContract remoteId)) ∧
      node.Exceeds .tooLarge := by
  obtain ⟨-, hfailure⟩ := texts_loneContract_remoteId
  refine ⟨decode_loneLocation, hfailure, ?_⟩
  rcases failure_isLayoutError_or_exceeds [loneContract remoteId] "0:9:0"
    decode_loneLocation hfailure with ⟨error, herror⟩ | ⟨root, hroot, hnode⟩
  · cases herror
  · obtain rfl := List.mem_singleton.mp hroot
    exact hnode

/-- Not every failure of a layout is one that a run over several contracts
survives: at an id out of range it is not. -/
theorem not_all_failures_are_layoutErrors :
    ¬∀ (roots : List Json) (index : Index) (sourceMap : String)
      (entries : List SourceMapEntry) (failure : Failure),
      Index.ofForest (roots.map Node.ofJson) = .ok index →
      SourceMap.decode sourceMap = .ok entries →
      texts index.lookup Abi.readName (entries.map (·.location)) = .error failure →
      ∃ error, failure = .layout error := by
  intro hall
  obtain ⟨⟨index, hindex⟩, hfailure⟩ := texts_loneContract_remoteId
  rw [textsInForest, hindex] at hfailure
  obtain ⟨error, herror⟩ := hall [loneContract remoteId] index "0:9:0" _ _ hindex
    decode_loneLocation hfailure
  cases herror

end Layout

end SolidityLayout
