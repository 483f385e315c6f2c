import SolidityLayout.Contract.Layout
import SolidityLayout.Proofs.Failure.Attempt
import SolidityLayout.Proofs.Number.Range

/-!
# Outcomes of layouts

A layout is computed by a list of single checks in a fixed order.  If all of
them are passed, the layout holds one variable for each declaration, in order;
otherwise the failure is that of the first check that is not passed.
-/

namespace SolidityLayout

open Ast Attempt

/-! ## Ids of ancestors -/

/-- A node lists an entry among the ancestors of a contract. -/
def Ast.Node.ListsBase (n : Node) (entry : Json) : Prop :=
  ∃ entries, n.attribute? "linearizedBaseContracts" = some (.arr entries) ∧ entry ∈ entries

namespace Ancestry

theorem isShowable_of_idOfEntry_eq_ok {entry : Json} {id : Int}
    (h : idOfEntry entry = .ok id) : Number.isShowable id = true := by
  cases entry with
  | int n =>
      simp only [idOfEntry] at h
      split at h
      · cases h
      · rename_i hlarge
        cases h
        rw [Bool.not_eq_true] at hlarge
        exact Number.Binary64.isShowable_of_not_isTooLarge hlarge
  | float x =>
      simp only [idOfEntry] at h
      split at h
      · rename_i hfloor
        cases h
        exact Number.Binary64.isShowable_of_floor?_eq_some hfloor
      · cases h
  | _ => cases h

/-- Every ancestor that counts stands in the list as an entry that gives its
id. -/
theorem exists_listsBase_of_mem {contract : Node} {ids : List Int}
    (h : ofContract contract = .ok ids) {id : Int} (hid : id ∈ ids) :
    ∃ entry, contract.ListsBase entry ∧ idOfEntry entry = .ok id := by
  unfold ofContract at h
  split at h
  · obtain ⟨-, ⟨⟩⟩ := noting_eq_ok_iff.mp h
    cases hid
  · obtain ⟨-, ⟨⟩⟩ := noting_eq_ok_iff.mp h
    cases hid
  · rename_i entries hlisted
    obtain ⟨found, hfound, rfl⟩ := map_eq_ok_iff.mp h
    obtain ⟨entry, hentry, hread⟩ := exists_of_mapM_eq_ok hfound (List.mem_reverse.mp hid)
    exact ⟨entry, ⟨entries, hlisted, hentry⟩, hread⟩
  · cases h

/-- The id of every ancestor can be shown. -/
theorem isShowable_of_mem_ofContract {contract : Node} {ids : List Int}
    (h : ofContract contract = .ok ids) :
    ∀ id ∈ ids, Number.isShowable id = true := by
  intro id hid
  obtain ⟨entry, -, hentry⟩ := exists_listsBase_of_mem h hid
  exact isShowable_of_idOfEntry_eq_ok hentry

end Ancestry

/-! ## Checks -/

/-- A single check on the way to a layout. -/
inductive Check
  /-- An ancestor's id is in the index. -/
  | indexed (id : Int)
  /-- The node of an ancestor has a name. -/
  | named (id : Int) (contract : Node)
  /-- A declaration has a name. -/
  | variableNamed (owner : String) (declaration : Node)
  /-- A declaration has a slot type. -/
  | variableTyped (declaration : Node)

namespace Check

/-- The failure of a check that is not passed. -/
def failure? (lookup : NodeLookup) (reader : TypeReader) : Check → Option Failure
  | indexed id =>
    if (lookup.withId? id).isSome then none
    else some (.layout (.missingNode id))
  | named id contract =>
    if contract.name?.isSome then none
    else some (.layout (.malformedTree (.contractWithoutName id)))
  | variableNamed owner declaration =>
    if declaration.name?.isSome then none
    else some (LayoutError.failure
      (.malformedTree (.variableWithoutName owner declaration)))
  | variableTyped declaration =>
    Attempt.failure? (SlotType.ofDeclaration reader declaration)

/-- The checks of a declaration. -/
def ofDeclaration (owner : String) (declaration : Node) : List Check :=
  [variableNamed owner declaration, variableTyped declaration]

/-- The checks of an ancestor, as far as there is a node and a name to go
on. -/
def ofAncestor (lookup : NodeLookup) (id : Int) : List Check :=
  indexed id ::
    match lookup.withId? id with
    | none => []
    | some contract =>
      named id contract ::
        match contract.name? with
        | none => []
        | some owner =>
          (contract.children.filter isStorageVariable).flatMap
            (ofDeclaration owner)

/-- The checks of a list of ancestors. -/
def ofAncestors (lookup : NodeLookup) (ids : List Int) : List Check :=
  ids.flatMap (ofAncestor lookup)

end Check

/-! ## Single declarations -/

namespace StorageVariable

variable {reader : TypeReader} {owner : String} {declaration : Node}

theorem ofDeclaration_eq_ok_iff {v : StorageVariable} :
    ofDeclaration reader owner declaration = .ok v ↔
      declaration.name? = some v.name ∧ v.owner = owner ∧
        SlotType.ofDeclaration reader declaration = .ok v.type := by
  obtain ⟨name, owner', type⟩ := v
  rw [ofDeclaration]
  cases declaration.name? with
  | none => simp
  | some found =>
      rw [map_eq_ok_iff]
      simp only [StorageVariable.mk.injEq, Option.some.injEq]
      constructor
      · rintro ⟨t, ht, rfl, rfl, rfl⟩
        exact ⟨rfl, rfl, ht⟩
      · rintro ⟨rfl, rfl, ht⟩
        exact ⟨type, ht, rfl, rfl, rfl⟩

theorem failure?_ofDeclaration (lookup : NodeLookup) :
    Attempt.failure? (ofDeclaration reader owner declaration) =
      (Check.ofDeclaration owner declaration).findSome?
        (Check.failure? lookup reader) := by
  rw [ofDeclaration, Check.ofDeclaration, List.findSome?_cons]
  cases hname : declaration.name? with
  | none => simp [Check.failure?, hname, Attempt.failure?]
  | some name => simp [Check.failure?, hname]

end StorageVariable

/-! ## Single ancestors -/

/-- An ancestor has its id in the index and a name, and each of its storage
variables has a name and a slot type. -/
def HasVariables (lookup : NodeLookup) (reader : TypeReader) (id : Int) : Prop :=
  ∃ contract owner,
    lookup.withId? id = some contract ∧ contract.name? = some owner ∧
    ∀ declaration ∈ contract.children, isStorageVariable declaration = true →
      (∃ name, declaration.name? = some name) ∧
      ∃ type, SlotType.ofDeclaration reader declaration = .ok type

/-- The given variables are those of an ancestor, one for each declaration and
in the same order. -/
def DeclaresVariables
    (lookup : NodeLookup) (reader : TypeReader)
    (id : Int) (vs : List StorageVariable) : Prop :=
  ∃ contract owner,
    lookup.withId? id = some contract ∧ contract.name? = some owner ∧
    List.Forall₂
      (fun declaration v =>
        declaration.name? = some v.name ∧ v.owner = owner ∧
        SlotType.ofDeclaration reader declaration = .ok v.type)
      (contract.children.filter isStorageVariable) vs

namespace Layout

variable {lookup : NodeLookup} {reader : TypeReader} {id : Int}

theorem variablesOf_eq_ok_iff {vs : List StorageVariable} :
    variablesOf lookup reader id = .ok vs ↔
      DeclaresVariables lookup reader id vs := by
  rw [variablesOf, NodeLookup.storageVariables, DeclaresVariables]
  cases hnode : lookup.withId? id with
  | none => simp
  | some contract =>
      cases hname : contract.name? with
      | none => simp [hname]
      | some owner =>
          simp only [hname, mapM_eq_ok_iff,
            StorageVariable.ofDeclaration_eq_ok_iff]
          constructor
          · intro h
            exact ⟨contract, owner, rfl, hname, h⟩
          · rintro ⟨_, _, ⟨⟩, hname', h⟩
            rw [hname] at hname'
            cases hname'
            exact h

theorem failure?_variablesOf (hid : Number.isShowable id = true) :
    Attempt.failure? (variablesOf lookup reader id) =
      (Check.ofAncestor lookup id).findSome? (Check.failure? lookup reader) := by
  rw [variablesOf, NodeLookup.storageVariables, Check.ofAncestor,
    List.findSome?_cons]
  cases hnode : lookup.withId? id with
  | none =>
      simp [Check.failure?, hnode, Attempt.failure?, LayoutError.failure,
        LayoutError.isShowable, hid]
  | some contract =>
      cases hname : contract.name? with
      | none =>
          simp [Check.failure?, hnode, hname, Attempt.failure?,
            LayoutError.failure, LayoutError.isShowable,
            MalformedTree.isShowable, hid]
      | some owner =>
          simp only [Check.failure?, hnode, hname, Option.isSome_some, if_true,
            List.findSome?_cons, failure?_mapM, findSome?_flatMap,
            StorageVariable.failure?_ofDeclaration lookup]

theorem forall_mem_ofDeclaration_iff {owner : String} {declaration : Node} :
    (∀ check ∈ Check.ofDeclaration owner declaration,
        check.failure? lookup reader = none) ↔
      (∃ name, declaration.name? = some name) ∧
        ∃ type, SlotType.ofDeclaration reader declaration = .ok type := by
  rw [← failure?_eq_none_iff]
  cases hname : declaration.name? <;>
    simp [Check.ofDeclaration, Check.failure?, hname]

/-- An ancestor passes its checks exactly if it has its variables. -/
theorem forall_mem_ofAncestor_iff :
    (∀ check ∈ Check.ofAncestor lookup id, check.failure? lookup reader = none) ↔
      HasVariables lookup reader id := by
  rw [Check.ofAncestor, List.forall_mem_cons, HasVariables]
  cases hnode : lookup.withId? id with
  | none => simp [Check.failure?, hnode]
  | some contract =>
      rw [List.forall_mem_cons]
      cases hname : contract.name? with
      | none => simp [Check.failure?, hname]
      | some owner =>
          have hindexed :
              (Check.indexed id).failure? lookup reader = none := by
            simp [Check.failure?, hnode]
          have hnamed :
              (Check.named id contract).failure? lookup reader = none := by
            simp [Check.failure?, hname]
          simp only [hindexed, hnamed, true_and, List.forall_mem_flatMap,
            forall_mem_ofDeclaration_iff, List.mem_filter]
          constructor
          · intro h
            exact ⟨contract, owner, rfl, hname, fun d hd hs => h d ⟨hd, hs⟩⟩
          · rintro ⟨_, _, ⟨⟩, -, h⟩ d ⟨hd, hs⟩
            exact h d hd hs

/-! ## Whole layouts -/

/-- The node at the first location is the definition if it can be shown. -/
theorem definition_of_located
    {location : Location} {rest : List Location} {contract : Node}
    (hlocated : lookup.atLocation? location = some contract)
    (hshow : contract.isShowable = true) :
    lookup.definition (location :: rest) = .ok contract := by
  rw [NodeLookup.definition]
  simp only [hlocated, hshow, noting_true]

theorem ofLocations_eq
    {locations : List Location} {contract : Node} {ids : List Int}
    (hdefinition : lookup.definition locations = .ok contract)
    (hids : Ancestry.ofContract contract = .ok ids) :
    ofLocations lookup reader locations =
      (ids.mapM (variablesOf lookup reader)).map fun groups =>
        ⟨contract.name?, ids, groups.flatten⟩ := by
  rw [ofLocations, hdefinition]
  simp only [hids]

theorem failure?_ofAncestors {ids : List Int}
    (hids : ∀ id ∈ ids, Number.isShowable id = true) :
    Attempt.failure? (ids.mapM (variablesOf lookup reader)) =
      (Check.ofAncestors lookup ids).findSome? (Check.failure? lookup reader) := by
  rw [failure?_mapM, Check.ofAncestors, findSome?_flatMap]
  induction ids with
  | nil => rfl
  | cons id rest ih =>
      have hid := hids id (by simp)
      have hrest := ih fun i hi => hids i (by simp [hi])
      rw [List.findSome?_cons, List.findSome?_cons, failure?_variablesOf hid, hrest]

theorem forall_mem_ofAncestors_iff {ids : List Int} :
    (∀ check ∈ Check.ofAncestors lookup ids,
        check.failure? lookup reader = none) ↔
      ∀ id ∈ ids, HasVariables lookup reader id := by
  rw [Check.ofAncestors, List.forall_mem_flatMap]
  simp only [forall_mem_ofAncestor_iff]

theorem isStorageVariable_iff (node : Node) :
    isStorageVariable node = true ↔
      node.tag? = some "VariableDeclaration" ∧
      (∃ source, node.header.source? = some source) ∧
      node.attribute? "constant" ≠ some (.bool true) := by
  rw [isStorageVariable, Bool.and_eq_true, Bool.and_eq_true, and_assoc]
  refine and_congr ?_ (and_congr ?_ ?_)
  · rw [Node.isTagged, beq_iff_eq]
  · rw [Node.hasSource, Option.isSome_iff_exists]
  · split
    · rename_i h
      simp [h]
    · rename_i h
      simpa using h

/-- What comes of a layout whose definition and ancestors are found.  There is
one exactly if every ancestor has its variables, it then lists the variables
of all ancestors in order, and otherwise the failure is that of the first check
that is not passed, whatever checks come behind it. -/
theorem ofLocations_outcome
    (lookup : NodeLookup) (reader : TypeReader)
    {locations : List Location} {contract : Node} {ids : List Int}
    (hdefinition : lookup.definition locations = .ok contract)
    (hids : Ancestry.ofContract contract = .ok ids) :
    ((∃ layout, ofLocations lookup reader locations = .ok layout) ↔
      ∀ id ∈ ids, HasVariables lookup reader id) ∧
    (∀ layout, ofLocations lookup reader locations = .ok layout ↔
      layout.contract? = contract.name? ∧ layout.ancestors = ids ∧
      ∃ groups, List.Forall₂ (DeclaresVariables lookup reader) ids groups ∧
        layout.contents = groups.flatten) ∧
    (∀ failure, ofLocations lookup reader locations = .error failure ↔
      ∃ before check after,
        Check.ofAncestors lookup ids = before ++ check :: after ∧
        (∀ passed ∈ before, passed.failure? lookup reader = none) ∧
        check.failure? lookup reader = some failure) ∧
    ∀ node, isStorageVariable node = true ↔
      node.tag? = some "VariableDeclaration" ∧
      (∃ source, node.header.source? = some source) ∧
      node.attribute? "constant" ≠ some (.bool true) := by
  have hfailure : Attempt.failure? (ofLocations lookup reader locations) =
      (Check.ofAncestors lookup ids).findSome? (Check.failure? lookup reader) := by
    rw [ofLocations_eq hdefinition hids, failure?_map,
      failure?_ofAncestors (Ancestry.isShowable_of_mem_ofContract hids)]
  refine ⟨?_, ?_, ?_, isStorageVariable_iff⟩
  · rw [← failure?_eq_none_iff, hfailure, List.findSome?_eq_none_iff,
      forall_mem_ofAncestors_iff]
  · intro layout
    obtain ⟨contract?, ancestors, contents⟩ := layout
    rw [ofLocations_eq hdefinition hids, map_eq_ok_iff]
    simp only [mapM_eq_ok_iff, variablesOf_eq_ok_iff, Layout.mk.injEq]
    constructor
    · rintro ⟨groups, hgroups, rfl, rfl, rfl⟩
      exact ⟨rfl, rfl, groups, hgroups, rfl⟩
    · rintro ⟨rfl, rfl, groups, hgroups, rfl⟩
      exact ⟨groups, hgroups, rfl, rfl, rfl⟩
  · intro failure
    rw [← failure?_eq_some_iff, hfailure, List.findSome?_eq_some_iff]
    constructor
    · rintro ⟨before, check, after, hsplit, hfails, hpassed⟩
      exact ⟨before, check, after, hsplit, hpassed, hfails⟩
    · rintro ⟨before, check, after, hsplit, hpassed, hfails⟩
      exact ⟨before, check, after, hsplit, hfails, hpassed⟩

/-! ## Layouts in a forest -/

/-- The layout of a contract in a forest that is yet to be indexed. -/
def inForest (trees : List Node) (reader : TypeReader) (locations : List Location) :
    Except Failure Layout :=
  (Index.ofForest trees).bind fun index => ofLocations index.lookup reader locations

/-- The texts of the variables of a contract in a forest that is yet to be indexed. -/
def textsInForest (trees : List Node) (reader : TypeReader) (locations : List Location) :
    Except Failure (List String) :=
  (Index.ofForest trees).bind fun index => texts index.lookup reader locations

theorem texts_eq_bind (lookup : NodeLookup) (reader : TypeReader)
    (locations : List Location) :
    texts lookup reader locations = (ofLocations lookup reader locations).bind render := by
  rw [texts]
  cases ofLocations lookup reader locations <;> rfl

theorem textsInForest_eq_bind (trees : List Node) (reader : TypeReader)
    (locations : List Location) :
    textsInForest trees reader locations = (inForest trees reader locations).bind render := by
  rw [textsInForest, inForest]
  cases Index.ofForest trees with
  | error failure => rfl
  | ok index => exact texts_eq_bind index.lookup reader locations

/-! ## A layout of two contracts -/

/-- The declaration of a truth value. -/
def flagDeclaration (name : String) : Node :=
  .mk ⟨some "VariableDeclaration", none, some (.str "4:9:0"), [("name", .str name)]⟩
    [.mk ⟨some "ElementaryTypeName", none, none, [("type", .str "bool")]⟩ []]

/-- The definition of a contract that declares one truth value. -/
def flagContract (name : String) (bases : List Json) (flag : String) : Node :=
  .mk ⟨some "ContractDefinition", none, none,
      [("name", .str name), ("linearizedBaseContracts", .arr bases)]⟩
    [flagDeclaration flag]

/-- A base contract with id 1 and a contract with id 2 that is derived from
it. -/
def flagLookup : NodeLookup where
  withId? id :=
    if id = 1 then some (flagContract "Base" [.int 1] "paused")
    else if id = 2 then some (flagContract "Token" [.int 2, .int 1] "open")
    else none
  atLocation? _ := some (flagContract "Token" [.int 2, .int 1] "open")

theorem ofContract_flagContract :
    Ancestry.ofContract (flagContract "Token" [.int 2, .int 1] "open") =
      .ok [1, 2] := by
  have hone : Number.Binary64.isTooLarge 1 = false := by decide +kernel
  have htwo : Number.Binary64.isTooLarge 2 = false := by decide +kernel
  have hentries : [Json.int 2, Json.int 1].mapM Ancestry.idOfEntry = .ok [2, 1] := by
    simp [Ancestry.idOfEntry, hone, htwo, bind, Except.bind, pure, Except.pure]
  have hattribute :
      (flagContract "Token" [.int 2, .int 1] "open").attribute?
        "linearizedBaseContracts" = some (.arr [.int 2, .int 1]) := rfl
  simp only [Ancestry.ofContract, hattribute, hentries]
  rfl

/-- The layout of the derived contract, wherever it is located. -/
theorem ofLocations_flagContract
    {lookup : NodeLookup} {reader : TypeReader} {location : Location}
    (hlocated : lookup.atLocation? location =
      some (flagContract "Token" [.int 2, .int 1] "open"))
    (hindex : lookup.withId? = flagLookup.withId?)
    (hbool : reader "bool" = .ok (.elementary "bool")) :
    ofLocations lookup reader [location] =
      .ok ⟨some "Token", [1, 2],
        [⟨"paused", "Base", .ofValue (.elementary "bool")⟩,
          ⟨"open", "Token", .ofValue (.elementary "bool")⟩]⟩ := by
  have htype (name : String) :
      SlotType.ofDeclaration reader (flagDeclaration name) =
        .ok (.ofValue (.elementary "bool")) :=
    congrArg (fun attempt => attempt.map SlotType.ofValue) hbool
  have hbase : lookup.withId? 1 = some (flagContract "Base" [.int 1] "paused") := by
    rw [hindex]
    rfl
  have htoken :
      lookup.withId? 2 = some (flagContract "Token" [.int 2, .int 1] "open") := by
    rw [hindex]
    rfl
  rw [ofLocations_eq (definition_of_located hlocated rfl) ofContract_flagContract, map_eq_ok_iff]
  refine ⟨[[_], [_]], mapM_eq_ok_iff.mpr (.cons ?_ (.cons ?_ .nil)), rfl⟩
  · exact variablesOf_eq_ok_iff.mpr
      ⟨_, _, hbase, rfl, .cons ⟨rfl, rfl, htype _⟩ .nil⟩
  · exact variablesOf_eq_ok_iff.mpr
      ⟨_, _, htoken, rfl, .cons ⟨rfl, rfl, htype _⟩ .nil⟩

/-- The layout of the derived contract, and what becomes of it when the index
is empty. -/
theorem ofLocations_outcome_flags :
    ofLocations flagLookup (fun name => .ok (.elementary name)) [⟨0, 9, 0⟩] =
      .ok ⟨some "Token", [1, 2],
        [⟨"paused", "Base", .ofValue (.elementary "bool")⟩,
          ⟨"open", "Token", .ofValue (.elementary "bool")⟩]⟩ ∧
    ofLocations { flagLookup with withId? := fun _ => none }
        (fun name => .ok (.elementary name)) [⟨0, 9, 0⟩] =
      .error (.layout (.missingNode 1)) := by
  constructor
  · have hdefinition : flagLookup.definition [⟨0, 9, 0⟩] = .ok _ :=
      definition_of_located rfl rfl
    have houtcome := ofLocations_outcome flagLookup
      (fun name => .ok (.elementary name)) hdefinition ofContract_flagContract
    refine (houtcome.2.1 _).mpr ⟨rfl, rfl, [[_], [_]], ?_, rfl⟩
    refine .cons ⟨_, _, rfl, rfl, ?_⟩ (.cons ⟨_, _, rfl, rfl, ?_⟩ .nil)
    · exact .cons ⟨rfl, rfl, rfl⟩ .nil
    · exact .cons ⟨rfl, rfl, rfl⟩ .nil
  · have hdefinition :
        NodeLookup.definition { flagLookup with withId? := fun _ => none } [⟨0, 9, 0⟩] = .ok _ :=
      definition_of_located rfl rfl
    have houtcome := ofLocations_outcome
      { flagLookup with withId? := fun _ => none }
      (fun name => .ok (.elementary name)) hdefinition ofContract_flagContract
    exact (houtcome.2.2.1 _).mpr ⟨[], .indexed 1, _, rfl, by simp, rfl⟩

end Layout

end SolidityLayout
