import SolidityLayout.Artifact.Collection
import SolidityLayout.Proofs.Ast.Lookup
import SolidityLayout.Proofs.Failure.Attempt

/-!
# Loading the output of a compiler run

What the output has to hold is said entry by entry: a syntax tree for every
source, source maps for every contract, and a list of sources that can be shown.
Output that holds all of it is loaded if its trees have an index.  Otherwise the
first thing that is missing ends the loading with a fault of the output, except for
a value that is no text in the place of a source map, and for a number beyond the
digit limit: an id that two nodes share, or an item in the list of sources.
-/

namespace SolidityLayout

open Ast Attempt

theorem Json.eq_obj_or_ne (value : Json) :
    (∃ members, value = .obj members) ∨ ∀ members, value ≠ .obj members := by
  cases value with
  | obj members => exact Or.inl ⟨members, rfl⟩
  | _ => exact Or.inr fun members h => by cases h

/-! ## Contracts -/

namespace Contract

/-- What stands in the place of a source map can be read as one: it is the text of
a source map, or it counts as missing. -/
def IsSourceMap : Option Json → Prop
  | none => True
  | some (.str text) => ∃ entries, SourceMap.decode text = .ok entries
  | some value => value.isTruthy = false

/-- A value in the place of a source map is neither a text nor missing. -/
def IsForeign : Option Json → Prop
  | none | some (.str _) => False
  | some value => value.isTruthy = true

section SourceMaps

variable {members : Json.Members} {key : String}

theorem exists_sourceMapOf_eq_ok_iff :
    (∃ entries, sourceMapOf members key = .ok entries) ↔
      IsSourceMap (members.get? key) := by
  cases hvalue : members.get? key with
  | none => simp [sourceMapOf, hvalue, IsSourceMap]
  | some value =>
      cases value with
      | str text =>
          cases hdecode : SourceMap.decode text <;>
            simp [sourceMapOf, hvalue, IsSourceMap, hdecode, Except.mapError]
      | _ =>
          simp only [sourceMapOf, hvalue, IsSourceMap]
          split <;> simp_all

theorem sourceMapOf_eq_noSuchPart_iff :
    sourceMapOf members key = .error .noSuchPart ↔ IsForeign (members.get? key) := by
  cases hvalue : members.get? key with
  | none => simp [sourceMapOf, hvalue, IsForeign]
  | some value =>
      cases value with
      | str text =>
          cases hdecode : SourceMap.decode text <;>
            simp [sourceMapOf, hvalue, IsForeign, hdecode, Except.mapError]
      | _ => simp [sourceMapOf, hvalue, IsForeign]

theorem ends_sourceMapOf (members : Json.Members) (key : String) :
    Ends (fun _ => True)
      (fun failure => (∃ f, failure = Artifacts.fault f) ∨ failure = .noSuchPart)
      (sourceMapOf members key) := by
  unfold sourceMapOf
  split
  · trivial
  · rename_i text _
    cases SourceMap.decode text with
    | error f => exact Or.inl ⟨f, rfl⟩
    | ok entries => trivial
  · split
    · exact Or.inr rfl
    · trivial

end SourceMaps

/-- The source maps of the contract are those in a contract's entry. -/
def HasMapsOf (c : Contract) (entry : Json) : Prop :=
  ∃ members, entry = .obj members ∧
    sourceMapOf members "srcmap" = .ok c.creation ∧
    sourceMapOf members "srcmap-runtime" = .ok c.runtime

/-- An entry from which a contract can be read. -/
def IsReadable (entry : Json) : Prop :=
  ∃ members, entry = .obj members ∧
    IsSourceMap (Json.Members.get? members "srcmap") ∧
    IsSourceMap (Json.Members.get? members "srcmap-runtime")

/-- Reading the entry stops at a value that is no source map but is taken for the
text of one. -/
def StopsAtForeign (entry : Json) : Prop :=
  ∃ members, entry = .obj members ∧
    (IsForeign (Json.Members.get? members "srcmap") ∨
      IsSourceMap (Json.Members.get? members "srcmap") ∧
        IsForeign (Json.Members.get? members "srcmap-runtime"))

variable {fullName : String} {entry : Json}

theorem ofEntry_obj (fullName : String) (members : Json.Members) :
    ofEntry fullName (.obj members) =
      (sourceMapOf members "srcmap").bind fun creation =>
        (sourceMapOf members "srcmap-runtime").map fun runtime =>
          ⟨(splitName fullName).2, (splitName fullName).1, creation, runtime⟩ := by
  simp only [ofEntry]
  cases sourceMapOf members "srcmap" with
  | error failure => rfl
  | ok creation => cases sourceMapOf members "srcmap-runtime" <;> rfl

theorem ofEntry_of_not_obj (h : ∀ members, entry ≠ .obj members) :
    ofEntry fullName entry = .error (Artifacts.fault (.contractNotAnObject fullName)) := by
  unfold ofEntry
  split
  · exact (h _ rfl).elim
  · rfl

theorem ofEntry_eq_ok_iff {c : Contract} :
    ofEntry fullName entry = .ok c ↔
      c.HasMapsOf entry ∧ (c.sourcePath, c.name) = splitName fullName := by
  constructor
  · intro h
    rcases entry.eq_obj_or_ne with ⟨members, rfl⟩ | hentry
    · rw [ofEntry_obj, bind_eq_ok_iff] at h
      obtain ⟨creation, hcreation, h⟩ := h
      obtain ⟨runtime, hruntime, rfl⟩ := map_eq_ok_iff.mp h
      exact ⟨⟨members, rfl, hcreation, hruntime⟩, rfl⟩
    · rw [ofEntry_of_not_obj hentry] at h
      cases h
  · rintro ⟨⟨members, rfl, hcreation, hruntime⟩, hname⟩
    rw [ofEntry_obj, hcreation, hruntime, ← hname]
    rfl

theorem exists_ofEntry_eq_ok_iff :
    (∃ c, ofEntry fullName entry = .ok c) ↔ IsReadable entry := by
  constructor
  · rintro ⟨c, hc⟩
    obtain ⟨⟨members, rfl, hcreation, hruntime⟩, -⟩ := ofEntry_eq_ok_iff.mp hc
    exact ⟨members, rfl, exists_sourceMapOf_eq_ok_iff.mp ⟨_, hcreation⟩,
      exists_sourceMapOf_eq_ok_iff.mp ⟨_, hruntime⟩⟩
  · rintro ⟨members, rfl, hcreation, hruntime⟩
    obtain ⟨creation, hcreation⟩ := exists_sourceMapOf_eq_ok_iff.mpr hcreation
    obtain ⟨runtime, hruntime⟩ := exists_sourceMapOf_eq_ok_iff.mpr hruntime
    rw [ofEntry_obj, hcreation, hruntime]
    exact ⟨_, rfl⟩

theorem ofEntry_eq_noSuchPart_iff :
    ofEntry fullName entry = .error .noSuchPart ↔ StopsAtForeign entry := by
  rcases entry.eq_obj_or_ne with ⟨members, rfl⟩ | hentry
  · rw [ofEntry_obj, bind_eq_error_iff]
    simp only [map_eq_error_iff, sourceMapOf_eq_noSuchPart_iff, exists_and_right,
      exists_sourceMapOf_eq_ok_iff]
    constructor
    · exact fun h => ⟨members, rfl, h⟩
    · rintro ⟨members', hmembers, h⟩
      obtain rfl := Json.obj.inj hmembers
      exact h
  · rw [ofEntry_of_not_obj hentry]
    constructor
    · intro h
      cases h
    · rintro ⟨members, hmembers, -⟩
      exact (hentry members hmembers).elim

theorem ends_ofEntry (fullName : String) (entry : Json) :
    Ends (fun _ => True)
      (fun failure => (∃ f, failure = Artifacts.fault f) ∨ failure = .noSuchPart)
      (ofEntry fullName entry) := by
  rcases entry.eq_obj_or_ne with ⟨members, rfl⟩ | hentry
  · rw [ofEntry_obj]
    exact (ends_sourceMapOf members "srcmap").bind fun _ _ =>
      (ends_sourceMapOf members "srcmap-runtime").map
  · rw [ofEntry_of_not_obj hentry]
    exact Or.inl ⟨_, rfl⟩

end Contract

/-! ## Sources -/

namespace Artifacts

/-- The entry of a source file holds a legacy syntax tree. -/
def IsTreeOf (tree : Node) (source : Json) : Prop :=
  ∃ members root, source = .obj members ∧
    (Json.Members.get? members "legacyAST").or (Json.Members.get? members "AST") =
      some (.obj root) ∧
    Json.Members.has root "nodeType" = false ∧ tree = .ofJson (.obj root)

theorem treeOf_eq_ok_iff {path : String} {source : Json} {tree : Node} :
    treeOf path source = .ok tree ↔ IsTreeOf tree source := by
  constructor
  · intro h
    unfold treeOf at h
    split at h
    · split at h
      · rename_i root hroot
        split at h
        · cases h
        · rename_i hlegacy
          cases h
          exact ⟨_, root, rfl, hroot, Bool.eq_false_iff.mpr hlegacy, rfl⟩
      · cases h
    · cases h
  · rintro ⟨members, root, rfl, hroot, hlegacy, rfl⟩
    simp only [treeOf, hroot, hlegacy, Bool.false_eq_true, if_false]

theorem ends_treeOf (path : String) (source : Json) :
    Ends (fun _ => True) (fun failure => ∃ f, failure = fault f) (treeOf path source) := by
  unfold treeOf
  split
  · split
    · split
      · exact ⟨_, rfl⟩
      · trivial
    · exact ⟨_, rfl⟩
  · exact ⟨_, rfl⟩

/-! ## The whole output -/

/-- The output is an object that has these sources and these entries of
contracts. -/
structure HasSections (output : Json) (members sources entries : Json.Members) : Prop where
  eq_obj : output = .obj members
  sources_eq : members.get? "sources" = some (.obj sources)
  contracts_eq : members.get? "contracts" = some (.obj entries)

/-- Some sections of the output, and the trees of the sources in their order. -/
structure HasTrees (output : Json) (members sources entries : Json.Members)
    (trees : List Node) : Prop
    extends HasSections output members sources entries where
  isTreeOf : List.Forall₂ (fun source tree => IsTreeOf tree source.2) sources trees

/-- Output that can be loaded. -/
def IsLoadable (output : Json) : Prop :=
  ∃ members sources entries trees, HasTrees output members sources entries trees ∧
    Forest.IsIndexable trees ∧
    (∀ entry ∈ entries, Contract.IsReadable entry.2) ∧
    ∀ item ∈ Reading.listedSources members sources, item.isShowable = true

/-- The trees have an index, and the first entry of a contract that cannot be read
stops at a value that is no source map but is taken for the text of one. -/
def StopsAtForeign (output : Json) : Prop :=
  ∃ members sources entries trees, HasTrees output members sources entries trees ∧
    Forest.IsIndexable trees ∧
    ∃ front entry back, entries = front ++ entry :: back ∧
      (∀ other ∈ front, Contract.IsReadable other.2) ∧
      Contract.StopsAtForeign entry.2

/-- The trees have no index, since two nodes share an id beyond the digit limit. -/
def StopsAtSharedId (output : Json) : Prop :=
  ∃ members sources entries trees, HasTrees output members sources entries trees ∧
    ¬Forest.IsIndexable trees

/-- Everything but the list of sources can be read, and that list holds a number
beyond the digit limit. -/
def StopsAtLongItem (output : Json) : Prop :=
  ∃ members sources entries trees, HasTrees output members sources entries trees ∧
    Forest.IsIndexable trees ∧
    (∀ entry ∈ entries, Contract.IsReadable entry.2) ∧
    ∃ item ∈ Reading.listedSources members sources, item.isShowable = false

variable {output : Json} {members sources entries : Json.Members} {trees : List Node}

theorem trees_eq_ok_iff :
    (sources.mapM fun source => treeOf source.1 source.2) = .ok trees ↔
      List.Forall₂ (fun source tree => IsTreeOf tree source.2) sources trees := by
  rw [mapM_eq_ok_iff]
  simp only [treeOf_eq_ok_iff]

theorem ends_trees (sources : Json.Members) :
    Ends (fun _ => True) (fun failure => ∃ f, failure = fault f)
      (sources.mapM fun source => treeOf source.1 source.2) := by
  refine Ends.mono (Ends.mapM (R := fun _ => True) fun source _ => ?_)
    (fun _ _ => trivial) fun _ => id
  exact ends_treeOf source.1 source.2

theorem exists_contracts_iff :
    (∃ contracts, (entries.mapM fun entry => Contract.ofEntry entry.1 entry.2) =
      .ok contracts) ↔ ∀ entry ∈ entries, Contract.IsReadable entry.2 :=
  exists_mapM_eq_ok_iff.trans
    (forall₂_congr fun _ _ => Contract.exists_ofEntry_eq_ok_iff)

theorem load_of_hasTrees (h : HasTrees output members sources entries trees) :
    load output =
      (Index.ofForest trees).bind fun index =>
        (entries.mapM fun entry => Contract.ofEntry entry.1 entry.2).bind fun contracts =>
          Reading.artifacts ⟨contracts.foldl addContract [], index, sources.length,
            Reading.listedSources members sources⟩ := by
  obtain ⟨⟨rfl, hsources, hcontracts⟩, htrees⟩ := h
  simp only [load, Reading.ofJson, hsources, hcontracts, trees_eq_ok_iff.mpr htrees]
  cases Index.ofForest trees with
  | error failure => rfl
  | ok index => cases entries.mapM fun entry => Contract.ofEntry entry.1 entry.2 <;> rfl

/-- Reading the output comes to the index, or it ends before with a fault of the
output. -/
theorem ofJson_eq_fault_or_hasTrees (output : Json) :
    (∃ f, Reading.ofJson output = .error (fault f)) ∨
      ∃ members sources entries trees, HasTrees output members sources entries trees := by
  unfold Reading.ofJson
  split
  · rename_i members
    split
    · rename_i sources entries hsources hcontracts
      split
      · rename_i failure htrees
        obtain ⟨f, rfl⟩ := (ends_trees sources).of_eq_error htrees
        exact Or.inl ⟨f, rfl⟩
      · rename_i trees htrees
        exact Or.inr ⟨members, sources, entries, trees, ⟨rfl, hsources, hcontracts⟩,
          trees_eq_ok_iff.mp htrees⟩
    · exact Or.inl ⟨_, rfl⟩
    · exact Or.inl ⟨_, rfl⟩
  · exact Or.inl ⟨_, rfl⟩

theorem load_eq_fault_or_hasTrees (output : Json) :
    (∃ f, load output = .error (fault f)) ∨
      ∃ members sources entries trees, HasTrees output members sources entries trees := by
  refine (ofJson_eq_fault_or_hasTrees output).imp_left ?_
  rintro ⟨f, hf⟩
  exact ⟨f, by rw [load, hf]⟩

theorem exists_hasTrees_of_load {result : Except Failure Artifacts}
    (h : load output = result) (hresult : ∀ f, result ≠ .error (fault f)) :
    ∃ members sources entries trees, HasTrees output members sources entries trees := by
  rcases load_eq_fault_or_hasTrees output with ⟨f, hf⟩ | htrees
  · exact (hresult f (h.symm.trans hf)).elim
  · exact htrees

theorem artifacts_eq_ok_iff {r : Reading} {a : Artifacts} :
    r.artifacts = .ok a ↔
      (∀ item ∈ r.listed, item.isShowable = true) ∧
        a = ⟨r.contracts, r.index, r.listed.map Json.plainText⟩ := by
  rw [Reading.artifacts, ← List.all_eq_true]
  by_cases hlisted : r.listed.all Json.isShowable = true
  · simp only [hlisted, if_true, Except.ok.injEq, true_and, eq_comm]
  · simp [hlisted]

/-- Once the trees are read, loading succeeds if they have an index, the contracts
can be read and the list of the sources can be shown. -/
theorem load_eq_ok_iff_of_hasTrees {a : Artifacts}
    (h : HasTrees output members sources entries trees) :
    load output = .ok a ↔
      ∃ index contracts, Index.ofForest trees = .ok index ∧
        (entries.mapM fun entry => Contract.ofEntry entry.1 entry.2) = .ok contracts ∧
        (∀ item ∈ Reading.listedSources members sources, item.isShowable = true) ∧
        a = ⟨contracts.foldl addContract [], index,
          (Reading.listedSources members sources).map Json.plainText⟩ := by
  simp only [load_of_hasTrees h, bind_eq_ok_iff, artifacts_eq_ok_iff, exists_and_left]

/-- Loading succeeds with the contracts of all entries, the index of all trees and
the list of the sources. -/
theorem load_eq_ok_iff {a : Artifacts} :
    load output = .ok a ↔
      ∃ members sources entries trees index contracts,
        HasTrees output members sources entries trees ∧
        Index.ofForest trees = .ok index ∧
        (entries.mapM fun entry => Contract.ofEntry entry.1 entry.2) = .ok contracts ∧
        (∀ item ∈ Reading.listedSources members sources, item.isShowable = true) ∧
        a = ⟨contracts.foldl addContract [], index,
          (Reading.listedSources members sources).map Json.plainText⟩ := by
  constructor
  · intro h
    obtain ⟨members, sources, entries, trees, htrees⟩ :=
      exists_hasTrees_of_load h (by simp)
    obtain ⟨index, contracts, hloaded⟩ := (load_eq_ok_iff_of_hasTrees htrees).mp h
    exact ⟨members, sources, entries, trees, index, contracts, htrees, hloaded⟩
  · rintro ⟨members, sources, entries, trees, index, contracts, htrees, hloaded⟩
    exact (load_eq_ok_iff_of_hasTrees htrees).mpr ⟨index, contracts, hloaded⟩

/-- Paths can always be shown, and a list of sources stays as it is. -/
theorem isShowable_of_mem_listedSources {members members' sources : Json.Members}
    (sources' : Json.Members)
    (hlisted : members'.get? "sourceList" = members.get? "sourceList")
    (h : ∀ item ∈ Reading.listedSources members sources, item.isShowable = true) :
    ∀ item ∈ Reading.listedSources members' sources', item.isShowable = true := by
  rw [Reading.listedSources] at h ⊢
  rw [hlisted]
  split
  · rename_i items hitems
    rw [hitems] at h
    exact h
  · intro item hitem
    obtain ⟨source, -, rfl⟩ := List.mem_map.mp hitem
    rfl

theorem exists_load_eq_ok_iff : (∃ a, load output = .ok a) ↔ IsLoadable output := by
  constructor
  · rintro ⟨a, ha⟩
    obtain ⟨members, sources, entries, trees, index, contracts, htrees, hindex, hcontracts,
      hlisted, -⟩ := load_eq_ok_iff.mp ha
    exact ⟨members, sources, entries, trees, htrees,
      Index.exists_ofForest_eq_ok_iff.mp ⟨index, hindex⟩,
      exists_contracts_iff.mp ⟨contracts, hcontracts⟩, hlisted⟩
  · rintro ⟨members, sources, entries, trees, htrees, hindexable, hreadable, hlisted⟩
    obtain ⟨index, hindex⟩ := Index.exists_ofForest_eq_ok_iff.mpr hindexable
    obtain ⟨contracts, hcontracts⟩ := exists_contracts_iff.mpr hreadable
    exact ⟨_, load_eq_ok_iff.mpr ⟨members, sources, entries, trees, index, contracts, htrees,
      hindex, hcontracts, hlisted, rfl⟩⟩

theorem artifacts_eq_error_iff {r : Reading} {failure : Failure} :
    r.artifacts = .error failure ↔
      failure = .longNumber ∧ ∃ item ∈ r.listed, item.isShowable = false := by
  unfold Reading.artifacts
  split
  · rename_i hall
    have hlisted := List.all_eq_true.mp hall
    constructor
    · intro h
      cases h
    · rintro ⟨-, item, hitem, hshow⟩
      rw [hlisted item hitem] at hshow
      cases hshow
  · rename_i hall
    obtain ⟨item, hitem, hshow⟩ := List.all_eq_false.mp (Bool.eq_false_iff.mpr hall)
    constructor
    · intro h
      cases h
      exact ⟨rfl, item, hitem, Bool.eq_false_iff.mpr hshow⟩
    · rintro ⟨rfl, -⟩
      rfl

theorem load_eq_error_iff {failure : Failure}
    (h : HasTrees output members sources entries trees) :
    load output = .error failure ↔
      failure = .longNumber ∧ ¬Forest.IsIndexable trees ∨
        Forest.IsIndexable trees ∧
          ((entries.mapM fun entry => Contract.ofEntry entry.1 entry.2) = .error failure ∨
            (∀ entry ∈ entries, Contract.IsReadable entry.2) ∧ failure = .longNumber ∧
              ∃ item ∈ Reading.listedSources members sources, item.isShowable = false) := by
  rw [load_of_hasTrees h, bind_eq_error_iff, Index.ofForest_eq_error_iff]
  simp only [bind_eq_error_iff, artifacts_eq_error_iff, exists_and_right,
    exists_contracts_iff, Index.exists_ofForest_eq_ok_iff]

theorem ends_contracts (entries : Json.Members) :
    Ends (fun _ => True)
      (fun failure => (∃ f, failure = fault f) ∨ failure = .noSuchPart)
      (entries.mapM fun entry => Contract.ofEntry entry.1 entry.2) := by
  refine Ends.mono (Ends.mapM (R := fun _ => True) fun entry _ => ?_)
    (fun _ _ => trivial) fun _ => id
  exact Contract.ends_ofEntry entry.1 entry.2

theorem load_eq_noSuchPart_iff :
    load output = .error .noSuchPart ↔ StopsAtForeign output := by
  constructor
  · intro h
    obtain ⟨members, sources, entries, trees, htrees⟩ :=
      exists_hasTrees_of_load h (by simp [fault])
    rcases (load_eq_error_iff htrees).mp h with
      ⟨hfailure, -⟩ | ⟨hindexable, hcontracts | ⟨-, hfailure, -⟩⟩
    · cases hfailure
    · obtain ⟨front, entry, back, hsplit, hfront, hentry⟩ :=
        mapM_eq_error_iff.mp hcontracts
      exact ⟨members, sources, entries, trees, htrees, hindexable, front, entry, back, hsplit,
        fun other hother => Contract.exists_ofEntry_eq_ok_iff.mp (hfront other hother),
        Contract.ofEntry_eq_noSuchPart_iff.mp hentry⟩
    · cases hfailure
  · rintro ⟨members, sources, entries, trees, htrees, hindexable, front, entry, back, hsplit,
      hfront, hentry⟩
    refine (load_eq_error_iff htrees).mpr (Or.inr ⟨hindexable, Or.inl ?_⟩)
    exact mapM_eq_error_iff.mpr ⟨front, entry, back, hsplit,
      fun other hother => Contract.exists_ofEntry_eq_ok_iff.mpr (hfront other hother),
      Contract.ofEntry_eq_noSuchPart_iff.mpr hentry⟩

theorem load_eq_longNumber_iff :
    load output = .error .longNumber ↔ StopsAtSharedId output ∨ StopsAtLongItem output := by
  constructor
  · intro h
    obtain ⟨members, sources, entries, trees, htrees⟩ :=
      exists_hasTrees_of_load h (by simp [fault])
    rcases (load_eq_error_iff htrees).mp h with
      ⟨-, hshared⟩ | ⟨hindexable, hcontracts | ⟨hreadable, -, hlisted⟩⟩
    · exact Or.inl ⟨members, sources, entries, trees, htrees, hshared⟩
    · rcases (ends_contracts entries).of_eq_error hcontracts with ⟨f, hf⟩ | hf
      · cases hf
      · cases hf
    · exact Or.inr ⟨members, sources, entries, trees, htrees, hindexable, hreadable, hlisted⟩
  · rintro (⟨members, sources, entries, trees, htrees, hshared⟩ |
      ⟨members, sources, entries, trees, htrees, hindexable, hreadable, hlisted⟩)
    · exact (load_eq_error_iff htrees).mpr (Or.inl ⟨rfl, hshared⟩)
    · exact (load_eq_error_iff htrees).mpr (Or.inr ⟨hindexable, Or.inr ⟨hreadable, rfl, hlisted⟩⟩)

theorem ends_load (output : Json) :
    Ends (fun _ => True)
      (fun failure => (∃ f, failure = fault f) ∨ failure = .noSuchPart ∨
        failure = .longNumber) (load output) := by
  cases h : load output with
  | ok a => trivial
  | error failure =>
      rcases load_eq_fault_or_hasTrees output with
        ⟨f, hf⟩ | ⟨members, sources, entries, trees, htrees⟩
      · rw [hf] at h
        cases h
        exact Or.inl ⟨f, rfl⟩
      · rcases (load_eq_error_iff htrees).mp h with
          ⟨hfailure, -⟩ | ⟨-, hcontracts | ⟨-, hfailure, -⟩⟩
        · exact Or.inr (Or.inr hfailure)
        · exact ((ends_contracts entries).of_eq_error hcontracts).imp_right Or.inl
        · exact Or.inr (Or.inr hfailure)

/-- Output that holds all it has to is loaded.  Loading any other output fails, and
the failure is a fault of the output with three exceptions: two nodes of the trees
share an id beyond the digit limit; or the first entry of a contract that cannot be
read has a value that is no text in the place of a source map; or only the list of
sources stands in the way, with a number beyond the digit limit. -/
theorem load_outcome (output : Json) :
    ((∃ a, load output = .ok a) ↔ IsLoadable output) ∧
    (load output = .error .noSuchPart ↔ StopsAtForeign output) ∧
    (load output = .error .longNumber ↔ StopsAtSharedId output ∨ StopsAtLongItem output) ∧
    ∀ failure, load output = .error failure →
      (∃ f, failure = fault f) ∨ failure = .noSuchPart ∨ failure = .longNumber :=
  ⟨exists_load_eq_ok_iff, load_eq_noSuchPart_iff, load_eq_longNumber_iff,
    fun _ => (ends_load output).of_eq_error⟩

/-- Output without sources and with one contract. -/
def loneEntry (fields : Json.Members) : Json :=
  .obj [("sources", .obj []), ("contracts", .obj [("a.sol:A", .obj fields)])]

theorem hasTrees_loneEntry (fields : Json.Members) :
    HasTrees (loneEntry fields)
      [("sources", .obj []), ("contracts", .obj [("a.sol:A", .obj fields)])] []
      [("a.sol:A", .obj fields)] [] :=
  ⟨⟨rfl, rfl, rfl⟩, .nil⟩

theorem load_loneEntry :
    load (loneEntry [("srcmap", .int 5)]) = .error .noSuchPart := by
  rw [load_eq_noSuchPart_iff]
  refine ⟨_, _, _, _, hasTrees_loneEntry _, Forest.isIndexable_nil, [], _, [], rfl, by simp, ?_⟩
  exact ⟨_, rfl, Or.inl rfl⟩

/-- A contract without source maps is loaded.  A number in the place of the source
map ends the loading, and not with a fault of the output. -/
theorem load_outcome_loneEntry :
    (∃ a, load (loneEntry []) = .ok a) ∧
    load (loneEntry [("srcmap", .int 5)]) = .error .noSuchPart ∧
    ¬IsLoadable (loneEntry [("srcmap", .int 5)]) := by
  have hreadable : IsLoadable (loneEntry []) := by
    refine ⟨_, _, _, _, hasTrees_loneEntry [], Forest.isIndexable_nil, ?_, List.forall_mem_nil _⟩
    simp [Contract.IsReadable, Contract.IsSourceMap, Json.Members.get?]
  have hforeign : StopsAtForeign (loneEntry [("srcmap", .int 5)]) := by
    refine ⟨_, _, _, _, hasTrees_loneEntry _, Forest.isIndexable_nil, [], _, [], rfl, by simp, ?_⟩
    exact ⟨_, rfl, Or.inl rfl⟩
  obtain ⟨hok, -, -, -⟩ := load_outcome (loneEntry [])
  obtain ⟨hok', hstops, -, -⟩ := load_outcome (loneEntry [("srcmap", .int 5)])
  have hload := hstops.mpr hforeign
  refine ⟨hok.mpr hreadable, hload, fun hloadable => ?_⟩
  obtain ⟨a, ha⟩ := hok'.mpr hloadable
  rw [hload] at ha
  cases ha

/-- Not every failure of loading is a fault of the output. -/
theorem not_all_load_failures_are_faults :
    ¬∀ output failure, load output = .error failure → ∃ f, failure = fault f := by
  intro hall
  obtain ⟨f, hf⟩ := hall _ _ load_loneEntry
  cases hf

end Artifacts

end SolidityLayout
