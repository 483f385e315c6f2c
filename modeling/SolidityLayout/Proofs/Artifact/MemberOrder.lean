import Mathlib.Data.List.Perm.Basic
import Mathlib.Data.List.Sort
import SolidityLayout.Proofs.Artifact.Addressing
import SolidityLayout.Proofs.Ast.Listing
import SolidityLayout.Proofs.Contract.Inheritance

/-!
# The order of members

The index of the output resolves ids in favour of the first tree and locations in
favour of the last one, and contracts are sought in the order of their entries.
As long as no two trees share an id or a location and no two contracts share a
full name, nothing of this shows: every order of the sources and of the contracts
gives the same layouts, and the same failures with the same candidates in them.
-/

namespace SolidityLayout

open Ast Attempt

/-! ## Attempts in another order -/

/-- Attempts made in another order succeed as well, with their values in that
order. -/
theorem Attempt.exists_mapM_of_perm {α β : Type} {f : α → Except Failure β} {as as' : List α}
    {bs : List β} (h : as.Perm as') (hbs : as.mapM f = .ok bs) :
    ∃ bs', as'.mapM f = .ok bs' ∧ bs.Perm bs' := by
  obtain ⟨bs', hall, hperm⟩ := List.perm_comp_forall₂ h.symm (mapM_eq_ok_iff.mp hbs)
  exact ⟨bs', mapM_eq_ok_iff.mpr hall, hperm.symm⟩

/-! ## Trees in another order -/

/-- Two trees have no id and no location in common. -/
structure Ast.Node.IsApart (tree other : Node) : Prop where
  ids : ∀ id, tree.HasId id → ¬other.HasId id
  locations : ∀ location, tree.HasLocation location → ¬other.HasLocation location

namespace Ast.Index

/-- If a search succeeds for at most one item, then it does not depend on the order
of the items. -/
theorem findSome?_eq_of_perm {α β : Type} {f : α → Option β} {as bs : List α}
    (h : as.Perm bs) (hone : as.Pairwise fun a b => f a = none ∨ f b = none) :
    as.findSome? f = bs.findSome? f := by
  induction h with
  | nil => rfl
  | cons a _ ih => rw [List.findSome?_cons, List.findSome?_cons, ih hone.of_cons]
  | swap a b rest =>
      have hpair := (List.pairwise_cons.mp hone).1 a (by simp)
      simp only [List.findSome?_cons]
      rcases hpair with hb | ha
      · rw [hb]
      · rw [ha]
  | trans hfirst _ ih₁ ih₂ =>
      have hone' := (hfirst.pairwise_iff Or.symm).mp hone
      exact (ih₁ hone).trans (ih₂ hone')

section Perm

variable {trees trees' : List Node} {index index' : Index}
variable (h : trees.Perm trees') (hindex : ofForest trees = .ok index)
variable (hindex' : ofForest trees' = .ok index') (hapart : trees.Pairwise Node.IsApart)

include h hindex hindex' hapart

theorem withId?_of_perm (id : Int) : index.withId? id = index'.withId? id := by
  rw [withId?_eq_find? hindex, withId?_eq_find? hindex', List.find?_flatMap, List.find?_flatMap]
  apply findSome?_eq_of_perm h
  apply hapart.imp
  intro tree other hdisjoint
  by_cases hid : tree.HasId id
  · exact Or.inr (Node.find?_eq_none_of_not_hasId (hdisjoint.ids id hid))
  · exact Or.inl (Node.find?_eq_none_of_not_hasId hid)

theorem atLocation?_of_perm (location : Location) :
    index.atLocation? location = index'.atLocation? location := by
  rw [atLocation?_eq_find? hindex, atLocation?_eq_find? hindex', List.reverse_flatMap,
    List.reverse_flatMap, List.find?_flatMap, List.find?_flatMap]
  have hreverse : trees.reverse.Perm trees'.reverse :=
    (List.reverse_perm trees).trans (h.trans (List.reverse_perm trees').symm)
  apply findSome?_eq_of_perm hreverse
  apply List.pairwise_reverse.mpr
  apply hapart.imp
  intro tree other hdisjoint
  by_cases hlocation : tree.HasLocation location
  · have hother := hdisjoint.locations location hlocation
    exact Or.inl (Node.find?_eq_none_of_not_hasLocation hother)
  · exact Or.inr (Node.find?_eq_none_of_not_hasLocation hlocation)

theorem lookup_of_perm : index.lookup = index'.lookup := by
  rw [lookup, lookup, NodeLookup.mk.injEq]
  exact ⟨funext (withId?_of_perm h hindex hindex' hapart),
    funext (atLocation?_of_perm h hindex hindex' hapart)⟩

end Perm

end Ast.Index

/-! ## Contracts in another order -/

namespace Artifacts

/-- No contract is replaced if all full names differ. -/
theorem foldl_addContract_of_nodup {contracts : List Contract}
    (h : (contracts.map Contract.fullName).Nodup) :
    contracts.foldl addContract [] = contracts := by
  induction contracts using List.reverseRecOn with
  | nil => rfl
  | append_singleton contracts c ih =>
      rw [List.map_append, List.map_singleton, List.nodup_append] at h
      obtain ⟨hnodup, -, hfresh⟩ := h
      have hnew : c.fullName ∉ contracts.map Contract.fullName := fun hmem =>
        hfresh _ hmem _ (List.mem_singleton_self _) rfl
      rw [List.foldl_append, List.foldl_cons, List.foldl_nil, ih hnodup, addContract,
        if_neg (mt any_fullName_iff.mp hnew)]

theorem not_decide_lt_iff {a b : String} : (!decide (b < a)) = true ↔ a ≤ b := by
  rw [Bool.not_eq_true', decide_eq_false_iff_not, String.not_lt]

/-- Sorted names stand in ascending order. -/
theorem pairwise_mergeSort_le (names : List String) :
    (names.mergeSort (fun a b => !(b < a))).Pairwise (· ≤ ·) := by
  have hsorted : (names.mergeSort (fun a b => !(b < a))).Pairwise
      fun a b => (!decide (b < a)) = true := by
    apply List.pairwise_mergeSort
    · intro a b c hab hbc
      rw [not_decide_lt_iff] at *
      exact String.le_trans hab hbc
    · intro a b
      rw [Bool.or_eq_true, not_decide_lt_iff, not_decide_lt_iff]
      exact String.le_total a b
  exact hsorted.imp not_decide_lt_iff.mp

/-- Candidates are listed in one order, however they are found. -/
theorem mergeSort_eq_of_perm {names names' : List String} (h : names.Perm names') :
    names.mergeSort (fun a b => !(b < a)) = names'.mergeSort (fun a b => !(b < a)) := by
  apply List.Perm.eq_of_pairwise _ (pairwise_mergeSort_le names) (pairwise_mergeSort_le names')
  · exact (List.mergeSort_perm names _).trans (h.trans (List.mergeSort_perm names' _).symm)
  · intro a b _ _ hab hba
    exact String.le_antisymm hab hba

/-- A name finds the same contract, or is unknown or ambiguous in the same way. -/
theorem find_of_perm {contracts contracts' : List Contract} (h : contracts.Perm contracts')
    (hnames : (contracts.map Contract.fullName).Nodup) (name : String) :
    find contracts name = find contracts' name := by
  have hfull : contracts.find? (·.fullName == name) =
      contracts'.find? (·.fullName == name) := by
    apply List.find?_eq_find?_of_perm h
    rintro c ⟨hc, hcname⟩ d ⟨hd, hdname⟩
    apply List.inj_on_of_nodup_map hnames hc hd
    rw [beq_iff_eq.mp hcname, beq_iff_eq.mp hdname]
  rw [find, find, hfull]
  cases contracts'.find? (·.fullName == name) with
  | some c => rfl
  | none =>
      have hsame := h.filter (·.name == name)
      generalize contracts.filter (·.name == name) = found,
        contracts'.filter (·.name == name) = found' at hsame
      rcases found with _ | ⟨c, _ | ⟨d, rest⟩⟩
      · obtain rfl := List.nil_perm.mp hsame
        rfl
      · obtain rfl := List.singleton_perm.mp hsame
        rfl
      · have hlength := hsame.length_eq
        rcases found' with _ | ⟨c', _ | ⟨d', rest'⟩⟩
        · simp at hlength
        · simp at hlength
        · simp only [mergeSort_eq_of_perm (hsame.map Contract.fullName)]

/-! ## Output with its members in another order -/

/-- Output with its sources and its contracts in another order is loaded too, and
every name leads to the same layout or to the same failure, provided that no two
trees share an id or a location and no two contracts a full name. -/
theorem layout_of_perm
    {output output' : Json} {members members' sources sources' entries entries' : Json.Members}
    {trees : List Node} {a : Artifacts}
    (h : HasSections output members sources entries)
    (h' : HasSections output' members' sources' entries')
    (hlisted : members'.get? "sourceList" = members.get? "sourceList")
    (hsources : sources.Perm sources') (hentries : entries.Perm entries')
    (htrees : (sources.mapM fun source => treeOf source.1 source.2) = .ok trees)
    (hapart : trees.Pairwise Node.IsApart)
    (hnames : ((entries.map fun entry => entry.1).map Contract.knownAs).Nodup)
    (hload : load output = .ok a) :
    ∃ a', load output' = .ok a' ∧
      ∀ reader name, a'.layout reader name = a.layout reader name := by
  obtain ⟨index, contracts, hindex, hcontracts, hshow, rfl⟩ :=
    (load_eq_ok_iff_of_hasTrees ⟨h, trees_eq_ok_iff.mp htrees⟩).mp hload
  obtain ⟨trees', htrees', htreesPerm⟩ := exists_mapM_of_perm hsources htrees
  obtain ⟨index', hindex'⟩ := Index.exists_ofForest_eq_ok_iff.mpr
    ((Forest.isIndexable_iff_of_perm htreesPerm).mp
      (Index.exists_ofForest_eq_ok_iff.mp ⟨index, hindex⟩))
  obtain ⟨contracts', hcontracts', hcontractsPerm⟩ := exists_mapM_of_perm hentries hcontracts
  have hnodup : (contracts.map Contract.fullName).Nodup := by
    rwa [map_fullName_of_mapM hcontracts]
  have hnodup' : (contracts'.map Contract.fullName).Nodup :=
    (hcontractsPerm.map Contract.fullName).nodup hnodup
  refine ⟨_, (load_eq_ok_iff_of_hasTrees ⟨h', trees_eq_ok_iff.mp htrees'⟩).mpr ⟨index',
    contracts', hindex', hcontracts',
    isShowable_of_mem_listedSources sources' hlisted hshow, rfl⟩, ?_⟩
  intro reader name
  simp only [layout]
  rw [foldl_addContract_of_nodup hnodup, foldl_addContract_of_nodup hnodup',
    find_of_perm hcontractsPerm hnodup name, 
    Index.lookup_of_perm htreesPerm hindex hindex' hapart]

/-! ## Two source files -/

/-- The tree of a contract with one variable, each at a range of its own. -/
def tokenTree (id : Int) (range flagRange flag : String) : Json.Members :=
  [("id", .int id), ("name", .str "ContractDefinition"), ("src", .str range),
    ("attributes", .obj [("name", .str "Token"), ("linearizedBaseContracts", .arr [.int id])]),
    ("children", .arr [.obj [("name", .str "VariableDeclaration"), ("src", .str flagRange),
      ("attributes", .obj [("name", .str flag)]),
      ("children", .arr [.obj [("name", .str "ElementaryTypeName"),
        ("attributes", .obj [("type", .str "bool")])]])]])]

def openTree : Json.Members :=
  tokenTree 1 "0:80:0" "4:9:0" "open"

def pausedTree (id : Int) : Json.Members :=
  tokenTree id "0:80:1" "4:9:1" "paused"

/-- A source file with a given tree. -/
def tokenFile (path : String) (tree : Json.Members) : String × Json :=
  (path, .obj [("legacyAST", .obj tree)])

/-- The entry of a contract whose creation code comes from a range. -/
def tokenEntry (key range : String) : String × Json :=
  (key, .obj [("srcmap", .str range)])

/-- Output with given sources and contracts. -/
def tokenOutput (sources entries : Json.Members) : Json.Members :=
  [("sources", .obj sources), ("contracts", .obj entries)]

theorem hasSections_tokenOutput (sources entries : Json.Members) :
    HasSections (.obj (tokenOutput sources entries)) (tokenOutput sources entries) sources
      entries :=
  ⟨rfl, rfl, rfl⟩

theorem ofLocations_openTree {lookup : NodeLookup}
    (hlocated : lookup.atLocation? ⟨0, 80, 0⟩ = some (.ofJson (.obj openTree)))
    (hfound : lookup.withId? 1 = some (.ofJson (.obj openTree))) :
    Layout.ofLocations lookup (fun name => .ok (.elementary name)) [⟨0, 80, 0⟩] =
      .ok ⟨some "Token", [1], [⟨"open", "Token", .ofValue (.elementary "bool")⟩]⟩ :=
  Layout.ofLocations_of_lone hlocated (by decide +kernel) rfl (by decide +kernel)
    ⟨_, _, hfound, rfl, .cons ⟨rfl, rfl, rfl⟩ .nil⟩

/-- Two files, and their contracts, whose full names differ in the path only. -/
def tokenFiles : Json.Members :=
  [tokenFile "a.sol" openTree, tokenFile "b.sol" (pausedTree 2)]

def tokenEntries : Json.Members :=
  [tokenEntry "a.sol:Token" "0:80:0", tokenEntry "b.sol:Token" "0:80:1"]

def tokenTrees : List Node :=
  [.ofJson (.obj openTree), .ofJson (.obj (pausedTree 2))]

theorem isIndexable_tokenTrees : Forest.IsIndexable tokenTrees := by
  decide +kernel

theorem load_tokenOutput {sources : Json.Members} {trees : List Node} {index : Index}
    {contracts : List Contract} {entries : Json.Members}
    (htrees : (sources.mapM fun source => treeOf source.1 source.2) = .ok trees)
    (hindex : Index.ofForest trees = .ok index)
    (hread : (entries.mapM fun entry => Contract.ofEntry entry.1 entry.2) = .ok contracts) :
    load (.obj (tokenOutput sources entries)) =
      .ok ⟨contracts.foldl addContract [], index, sources.map fun source => source.1⟩ := by
  refine (load_eq_ok_iff_of_hasTrees
    ⟨hasSections_tokenOutput sources entries, trees_eq_ok_iff.mp htrees⟩).mpr
    ⟨index, contracts, hindex, hread, ?_, ?_⟩
  · intro item hitem
    obtain ⟨source, -, rfl⟩ := List.mem_map.mp hitem
    rfl
  · have hlisted : Reading.listedSources (tokenOutput sources entries) sources =
        sources.map fun source => .str source.1 := rfl
    rw [hlisted, List.map_map]
    rfl

theorem isApart_tokenTrees : tokenTrees.Pairwise Node.IsApart := by
  apply List.pairwise_pair.mpr
  constructor
  · intro id hid hother
    have hfirst : some id ∈ [some 1, none, none] := List.mem_map.mpr hid
    have hsecond : some id ∈ [some 2, none, none] := List.mem_map.mpr hother
    simp at hfirst hsecond
    omega
  · intro location hlocation hother
    have hfirst : some location ∈ [some ⟨0, 80, 0⟩, some ⟨4, 9, 0⟩, none] :=
      List.mem_map.mpr hlocation
    have hsecond : some location ∈ [some ⟨0, 80, 1⟩, some ⟨4, 9, 1⟩, none] :=
      List.mem_map.mpr hother
    simp at hfirst hsecond
    rcases hfirst with rfl | rfl
    · simp at hsecond
    · simp at hsecond

/-- With the files and the contracts turned round, the first contract keeps its
layout, and the short name stays ambiguous with the candidates in one order. -/
theorem layout_of_perm_tokenFiles :
    ∃ a', load (.obj (tokenOutput tokenFiles.reverse tokenEntries.reverse)) = .ok a' ∧
      a'.layout (fun name => .ok (.elementary name)) "a.sol:Token" =
        .ok ⟨some "Token", [1], [⟨"open", "Token", .ofValue (.elementary "bool")⟩]⟩ ∧
      a'.layout (fun name => .ok (.elementary name)) "Token" =
        .error (fault (.ambiguousContract "Token" ["a.sol:Token", "b.sol:Token"])) := by
  have hsections := hasSections_tokenOutput tokenFiles tokenEntries
  have hturned := hasSections_tokenOutput tokenFiles.reverse tokenEntries.reverse
  obtain ⟨index, hindex⟩ := Index.exists_ofForest_eq_ok_iff.mpr isIndexable_tokenTrees
  have hload : load (.obj (tokenOutput tokenFiles tokenEntries)) =
      .ok ⟨[⟨"Token", "a.sol", [⟨⟨0, 80, 0⟩, "-", 0⟩], []⟩,
        ⟨"Token", "b.sol", [⟨⟨0, 80, 1⟩, "-", 0⟩], []⟩], index, ["a.sol", "b.sol"]⟩ :=
    (load_tokenOutput rfl hindex rfl).trans rfl
  obtain ⟨a', ha', hlayout⟩ := layout_of_perm hsections hturned rfl
    (List.reverse_perm tokenFiles).symm (List.reverse_perm tokenEntries).symm rfl
    isApart_tokenTrees (by decide) hload
  refine ⟨a', ha', ?_, ?_⟩
  · rw [hlayout]
    exact ofLocations_openTree (Index.atLocation?_eq_find? hindex _)
      (Index.withId?_eq_find? hindex _)
  · rw [hlayout]
    have hsorted : ["a.sol:Token", "b.sol:Token"].mergeSort (fun a b => !(b < a)) =
        ["a.sol:Token", "b.sol:Token"] :=
      List.mergeSort_of_pairwise (by decide)
    exact congrArg (fun names => Except.error (fault (.ambiguousContract "Token" names))) hsorted

end Artifacts

end SolidityLayout
