import SolidityLayout.Command.Run
import SolidityLayout.Proofs.Artifact.MemberOrder

/-!
# Resolution of contract names

The contracts of loaded output are kept in a table under their full names, one for
each.  A query is first taken for a full name, which can only be that of one contract.
Otherwise it has to be the name of exactly one contract; names have no colon in them,
so that a query with a colon is never resolved in this way.
-/

namespace SolidityLayout.Artifacts

open Attempt

/-! ## The table of contracts -/

/-- Set the entry of a key in a table: a new key goes to the end, a known key keeps its
place. -/
def setEntry {α : Type} (table : List (String × α)) (key : String) (value : α) :
    List (String × α) :=
  if key ∈ table.map Prod.fst then
    table.map fun entry => if entry.1 = key then (key, value) else entry
  else table ++ [(key, value)]

/-- The table in which each contract is set under its full name, one after another. -/
def tableOf (contracts : List Contract) : List (String × Contract) :=
  contracts.foldl (fun table c => setEntry table c.fullName c) []

/-- Contracts with the keys under which they are kept. -/
def keyed (contracts : List Contract) : List (String × Contract) :=
  contracts.map fun c => (c.fullName, c)

theorem map_fst_keyed (contracts : List Contract) :
    (keyed contracts).map Prod.fst = contracts.map Contract.fullName := by
  rw [keyed, List.map_map]
  rfl

theorem setEntry_keyed (contracts : List Contract) (c : Contract) :
    setEntry (keyed contracts) c.fullName c = keyed (addContract contracts c) := by
  rw [setEntry, map_fst_keyed]
  by_cases hmem : c.fullName ∈ contracts.map Contract.fullName
  · rw [if_pos hmem, addContract, if_pos (any_fullName_iff.mpr hmem), keyed, keyed,
      List.map_map, List.map_map]
    apply List.map_congr_left
    intro other _
    by_cases heq : other.fullName = c.fullName
    · simp [heq]
    · simp [heq]
  · rw [if_neg hmem, addContract, if_neg (mt any_fullName_iff.mp hmem), keyed, keyed,
      List.map_append]
    rfl

/-- A contract that is kept is kept under its full name. -/
theorem tableOf_eq_keyed (contracts : List Contract) :
    tableOf contracts = keyed (contracts.foldl addContract []) := by
  induction contracts using List.reverseRecOn with
  | nil => rfl
  | append_singleton contracts c ih =>
      rw [tableOf] at ih
      rw [tableOf, List.foldl_append, List.foldl_append, ih, List.foldl_cons, List.foldl_nil,
        setEntry_keyed]
      rfl

/-- No two contracts are kept under one full name. -/
theorem nodup_fullName_foldl_addContract (contracts : List Contract) :
    ((contracts.foldl addContract []).map Contract.fullName).Nodup := by
  rw [map_fullName_foldl_addContract, List.nodup_reverse]
  exact List.nodup_dedup _

/-! ## Queries -/

section Distinct

variable {contracts : List Contract} (hnodup : (contracts.map Contract.fullName).Nodup)

include hnodup

theorem find?_fullName_eq_some_iff {query : String} {c : Contract} :
    contracts.find? (·.fullName == query) = some c ↔ c ∈ contracts ∧ c.fullName = query := by
  constructor
  · intro h
    have hname := List.find?_some h
    rw [beq_iff_eq] at hname
    exact ⟨List.mem_of_find?_eq_some h, hname⟩
  · intro h
    obtain ⟨hc, hname⟩ := h
    cases hfound : contracts.find? (·.fullName == query) with
    | none =>
        have hne := List.find?_eq_none.mp hfound c hc
        rw [beq_iff_eq] at hne
        exact (hne hname).elim
    | some d =>
        have hdname := List.find?_some hfound
        rw [beq_iff_eq] at hdname
        rw [List.inj_on_of_nodup_map hnodup (List.mem_of_find?_eq_some hfound) hc
          (hdname.trans hname.symm)]

/-- A full name finds its contract, whatever other contracts have it for a name. -/
theorem find_fullName {c : Contract} (hc : c ∈ contracts) :
    find contracts c.fullName = .ok c :=
  find_of_find?_eq_some ((find?_fullName_eq_some_iff hnodup).mpr ⟨hc, rfl⟩)

theorem filter_name_eq_singleton_iff {query : String} {c : Contract} :
    contracts.filter (·.name == query) = [c] ↔
      c ∈ contracts ∧ c.name = query ∧ ∀ d ∈ contracts, d.name = query → d = c := by
  have hfilter : (contracts.filter (·.name == query)).Nodup :=
    (List.Nodup.of_map _ hnodup).filter _
  rw [← List.perm_singleton, List.perm_ext_iff_of_nodup hfilter (List.nodup_singleton c)]
  simp only [List.mem_filter, beq_iff_eq, List.mem_singleton]
  constructor
  · intro h
    obtain ⟨hc, hname⟩ := (h c).mpr rfl
    exact ⟨hc, hname, fun d hd hdname => (h d).mp ⟨hd, hdname⟩⟩
  · intro h d
    obtain ⟨hc, hname, hone⟩ := h
    constructor
    · intro hd
      exact hone d hd.1 hd.2
    · intro hd
      rw [hd]
      exact ⟨hc, hname⟩

end Distinct

section Unmatched

variable {contracts : List Contract} {query : String}
  (hfull : ∀ d ∈ contracts, d.fullName ≠ query)

include hfull

theorem find?_fullName_eq_none : contracts.find? (·.fullName == query) = none := by
  apply List.find?_eq_none.mpr
  intro d hd heq
  exact hfull d hd (beq_iff_eq.mp heq)

theorem find_eq_ok_iff_filter {c : Contract} :
    find contracts query = .ok c ↔ contracts.filter (·.name == query) = [c] := by
  rw [find, find?_fullName_eq_none hfull]
  simp only
  split
  · rename_i hnil
    simp [hnil]
  · rename_i d hd
    simp [hd]
  · rename_i hnil hone
    constructor
    · intro h
      cases h
    · intro h
      exact (hone c h).elim

theorem find_eq_unknown_of_forall (hname : ∀ d ∈ contracts, d.name ≠ query) :
    find contracts query = .error (.unknownContract query) := by
  have hnil : contracts.filter (·.name == query) = [] := by
    apply List.filter_eq_nil_iff.mpr
    intro d hd heq
    exact hname d hd (beq_iff_eq.mp heq)
  rw [find, find?_fullName_eq_none hfull]
  simp only [hnil]

/-- Two contracts of one name make it ambiguous; all contracts of that name are
listed, in the order of their full names. -/
theorem find_eq_ambiguous {c d : Contract} (hc : c ∈ contracts) (hd : d ∈ contracts)
    (hne : c ≠ d) (hcname : c.name = query) (hdname : d.name = query) :
    ∃ candidates, find contracts query = .error (.ambiguousContract query candidates) ∧
      candidates.Perm ((contracts.filter (·.name == query)).map Contract.fullName) ∧
      candidates.Pairwise (· ≤ ·) := by
  have hcmem : c ∈ contracts.filter (·.name == query) := by simp [hc, hcname]
  have hdmem : d ∈ contracts.filter (·.name == query) := by simp [hd, hdname]
  refine ⟨_, ?_, List.mergeSort_perm _ _, pairwise_mergeSort_le _⟩
  rw [find, find?_fullName_eq_none hfull]
  simp only
  split
  · rename_i hnil
    rw [hnil] at hcmem
    cases hcmem
  · rename_i other hone
    rw [hone, List.mem_singleton] at hcmem hdmem
    exact (hne (hcmem.trans hdmem.symm)).elim
  · rfl

end Unmatched

/-- What a query comes to among contracts. -/
inductive Resolves (contracts : List Contract) (query : String) :
    Except ArtifactFault Contract → Prop
  | fullName {c : Contract} (hc : c ∈ contracts) (hname : c.fullName = query) :
      Resolves contracts query (.ok c)
  /-- Where no contract has the query for its full name, one alone has it for its name. -/
  | name {c : Contract} (hfull : ∀ d ∈ contracts, d.fullName ≠ query) (hc : c ∈ contracts)
      (hname : c.name = query) (hone : ∀ d ∈ contracts, d.name = query → d = c) :
      Resolves contracts query (.ok c)
  | unknown (hfull : ∀ d ∈ contracts, d.fullName ≠ query)
      (hname : ∀ d ∈ contracts, d.name ≠ query) :
      Resolves contracts query (.error (.unknownContract query))
  | ambiguous {c d : Contract} {candidates : List String}
      (hfull : ∀ e ∈ contracts, e.fullName ≠ query) (hc : c ∈ contracts) (hd : d ∈ contracts)
      (hne : c ≠ d) (hcname : c.name = query) (hdname : d.name = query)
      (hperm : candidates.Perm ((contracts.filter (·.name == query)).map Contract.fullName))
      (hsorted : candidates.Pairwise (· ≤ ·)) :
      Resolves contracts query (.error (.ambiguousContract query candidates))

theorem resolves_find {contracts : List Contract}
    (hnodup : (contracts.map Contract.fullName).Nodup) (query : String) :
    Resolves contracts query (find contracts query) := by
  by_cases hfull : ∃ c ∈ contracts, c.fullName = query
  · obtain ⟨c, hc, hname⟩ := hfull
    rw [← hname, find_fullName hnodup hc]
    exact .fullName hc rfl
  · have hfull : ∀ d ∈ contracts, d.fullName ≠ query := fun d hd h => hfull ⟨d, hd, h⟩
    by_cases hname : ∃ c ∈ contracts, c.name = query
    · obtain ⟨c, hc, hcname⟩ := hname
      by_cases hone : ∀ d ∈ contracts, d.name = query → d = c
      · have hfilter := (filter_name_eq_singleton_iff hnodup).mpr ⟨hc, hcname, hone⟩
        rw [(find_eq_ok_iff_filter hfull).mpr hfilter]
        exact .name hfull hc hcname hone
      · push Not at hone
        obtain ⟨d, hd, hdname, hne⟩ := hone
        obtain ⟨candidates, hfind, hperm, hsorted⟩ :=
          find_eq_ambiguous hfull hc hd hne.symm hcname hdname
        rw [hfind]
        exact .ambiguous hfull hc hd hne.symm hcname hdname hperm hsorted
    · have hname : ∀ d ∈ contracts, d.name ≠ query := fun d hd h => hname ⟨d, hd, h⟩
      rw [find_eq_unknown_of_forall hfull hname]
      exact .unknown hfull hname

/-- Finding a contract comes to what the query resolves to, and to nothing else. -/
theorem find_eq_iff_resolves {contracts : List Contract}
    (hnodup : (contracts.map Contract.fullName).Nodup) {query : String}
    {result : Except ArtifactFault Contract} :
    find contracts query = result ↔ Resolves contracts query result := by
  constructor
  · intro h
    rw [← h]
    exact resolves_find hnodup query
  · intro h
    cases h with
    | fullName hc hname =>
        rw [← hname]
        exact find_fullName hnodup hc
    | name hfull hc hname hone =>
        exact (find_eq_ok_iff_filter hfull).mpr
          ((filter_name_eq_singleton_iff hnodup).mpr ⟨hc, hname, hone⟩)
    | unknown hfull hname => exact find_eq_unknown_of_forall hfull hname
    | ambiguous hfull hc hd hne hcname hdname hperm hsorted =>
        obtain ⟨sorted, hfind, hperm', hsorted'⟩ :=
          find_eq_ambiguous hfull hc hd hne hcname hdname
        have hsame := List.Perm.eq_of_pairwise (fun _ _ _ _ hab hba => String.le_antisymm hab hba)
          hsorted' hsorted (hperm'.trans hperm.symm)
        rw [hfind, hsame]

/-- A query with a colon in it finds a contract by the full name alone. -/
theorem fullName_of_colon_mem {contracts : List Contract}
    (hnodup : (contracts.map Contract.fullName).Nodup)
    (hcolon : ∀ c ∈ contracts, ':' ∉ c.name.toList) {query : String} {c : Contract}
    (hquery : ':' ∈ query.toList) (hfind : find contracts query = .ok c) :
    c.fullName = query := by
  cases (find_eq_iff_resolves hnodup).mp hfind with
  | fullName _ hname => exact hname
  | name _ hc hname =>
      rw [← hname] at hquery
      exact (hcolon c hc hquery).elim

/-- The full names of contracts select these contracts. -/
theorem select_map_fullName {a : Artifacts} (hnodup : (a.contracts.map Contract.fullName).Nodup)
    {selected : List Contract} (hne : selected ≠ []) (hmem : ∀ c ∈ selected, c ∈ a.contracts) :
    Command.Run.select a (selected.map Contract.fullName) = .ok selected := by
  have hfound : List.Forall₂ (fun name c => find a.contracts name = .ok c)
      (selected.map Contract.fullName) selected := by
    rw [List.forall₂_map_left_iff]
    exact List.forall₂_same.mpr fun c hc => find_fullName hnodup (hmem c hc)
  rw [Command.Run.select, if_neg (by simpa using hne)]
  exact mapM_eq_ok_iff.mpr hfound

/-- The contracts of loaded output are the table of what its entries describe, each
under its full name, and no name has a colon in it.  A query comes to what it resolves
to: the contract of that full name, or else the only one of that name.  So the full
name of every contract finds it, also when it is given to select contracts, and a
query with a colon is never resolved by a name. -/
theorem find_outcome_of_load {output : Json} {a : Artifacts} (hload : load output = .ok a) :
    (∃ (members entries : Json.Members) (read : List Contract), output = .obj members ∧
      members.get? "contracts" = some (.obj entries) ∧
      (entries.mapM fun entry => Contract.ofEntry entry.1 entry.2) = .ok read ∧
      tableOf read = keyed a.contracts) ∧
    (a.contracts.map Contract.fullName).Nodup ∧
    (∀ c ∈ a.contracts, ':' ∉ c.name.toList) ∧
    (∀ query result, find a.contracts query = result ↔ Resolves a.contracts query result) ∧
    (∀ c ∈ a.contracts, find a.contracts c.fullName = .ok c) ∧
    (∀ selected, selected ≠ [] → (∀ c ∈ selected, c ∈ a.contracts) →
      Command.Run.select a (selected.map Contract.fullName) = .ok selected) ∧
    ∀ query c, ':' ∈ query.toList → find a.contracts query = .ok c → c.fullName = query := by
  obtain ⟨members, sources, entries, trees, index, read, htrees, -, hread, -, rfl⟩ :=
    load_eq_ok_iff.mp hload
  have hnodup := nodup_fullName_foldl_addContract read
  have hcolon : ∀ c ∈ read.foldl addContract [], ':' ∉ c.name.toList := by
    intro c hc
    obtain ⟨entry, -, hentry⟩ := exists_of_mapM_eq_ok hread (mem_of_mem_foldl_addContract hc)
    exact not_mem_name_of_ofEntry hentry
  refine ⟨⟨members, entries, read, htrees.eq_obj, htrees.contracts_eq, hread,
    tableOf_eq_keyed read⟩, hnodup, hcolon, ?_, ?_, ?_, ?_⟩
  · intro query result
    exact find_eq_iff_resolves hnodup
  · intro c hc
    exact find_fullName hnodup hc
  · intro selected hne hmem
    exact select_map_fullName hnodup hne hmem
  · intro query c hquery hfind
    exact fullName_of_colon_mem hnodup hcolon hquery hfind

/-- A full name is found although it is also the name of two more contracts; another
name of two contracts is ambiguous. -/
theorem find_outcome_of_load_sharedNames :
    ∃ a, load (.obj (keyedOutput ["a.sol:A", "A", "b.sol:A", "a.sol:B", "b.sol:B"])) = .ok a ∧
      find a.contracts "A" = .ok ⟨"A", "", [], []⟩ ∧
      find a.contracts "B" = .error (.ambiguousContract "B" ["a.sol:B", "b.sol:B"]) := by
  have hload : load (.obj (keyedOutput ["a.sol:A", "A", "b.sol:A", "a.sol:B", "b.sol:B"])) =
      .ok ⟨[⟨"A", "a.sol", [], []⟩, ⟨"A", "", [], []⟩, ⟨"A", "b.sol", [], []⟩,
        ⟨"B", "a.sol", [], []⟩, ⟨"B", "b.sol", [], []⟩], ⟨∅, ∅⟩, []⟩ :=
    (load_keyedOutput rfl).trans rfl
  obtain ⟨-, -, -, hresolves, hfound, -⟩ := find_outcome_of_load hload
  refine ⟨_, hload, hfound ⟨"A", "", [], []⟩ (by simp), (hresolves _ _).mpr ?_⟩
  refine @Resolves.ambiguous _ _ ⟨"B", "a.sol", [], []⟩ ⟨"B", "b.sol", [], []⟩ _
    (by decide) (by simp) (by simp) (by decide) rfl rfl (List.Perm.refl _) ?_
  exact List.pairwise_pair.mpr (by decide)

end SolidityLayout.Artifacts
