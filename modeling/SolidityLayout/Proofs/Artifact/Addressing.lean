import Mathlib.Data.List.Dedup
import SolidityLayout.Proofs.Artifact.FullName
import SolidityLayout.Proofs.Artifact.Loading

/-!
# Finding contracts by the keys of their entries

A contract is kept under the full name that is put together again from the parts
of its entry's key.  The full names of all contracts are kept, in order, and of
the contracts with one full name the last.  A key with an empty path differs from
its contract's full name, so it finds nothing, and the contract can take the place
of another one.
-/

namespace SolidityLayout

open Attempt

namespace Artifacts

/-! ## Adding contracts one after another -/

theorem any_fullName_iff {contracts : List Contract} {c : Contract} :
    contracts.any (·.fullName == c.fullName) = true ↔
      c.fullName ∈ contracts.map Contract.fullName := by
  simp [List.any_eq_true]

theorem map_fullName_addContract (contracts : List Contract) (c : Contract) :
    (addContract contracts c).map Contract.fullName =
      if c.fullName ∈ contracts.map Contract.fullName then
        contracts.map Contract.fullName
      else contracts.map Contract.fullName ++ [c.fullName] := by
  by_cases hmem : c.fullName ∈ contracts.map Contract.fullName
  · rw [addContract, if_pos (any_fullName_iff.mpr hmem), if_pos hmem, List.map_map]
    apply List.map_congr_left
    intro other _
    by_cases heq : other.fullName = c.fullName
    · simp [heq]
    · simp [heq]
  · rw [addContract, if_neg (mt any_fullName_iff.mp hmem), if_neg hmem, List.map_append]
    rfl

theorem find?_map_replace (contracts : List Contract) (c : Contract) (name : String) :
    (contracts.map fun other => if other.fullName == c.fullName then c else other).find?
        (·.fullName == name) =
      (contracts.find? (·.fullName == name)).map fun other =>
        if other.fullName == c.fullName then c else other := by
  have hsame : ((·.fullName == name) ∘ fun other : Contract =>
      if other.fullName == c.fullName then c else other) = (·.fullName == name) := by
    funext other
    by_cases heq : other.fullName = c.fullName
    · simp [heq]
    · simp [heq]
  rw [List.find?_map, hsame]

theorem find?_addContract (contracts : List Contract) (c : Contract) (name : String) :
    (addContract contracts c).find? (·.fullName == name) =
      if c.fullName = name then some c
      else contracts.find? (·.fullName == name) := by
  by_cases hmem : c.fullName ∈ contracts.map Contract.fullName
  · rw [addContract, if_pos (any_fullName_iff.mpr hmem), find?_map_replace]
    cases hfound : contracts.find? (·.fullName == name) with
    | none =>
        obtain ⟨other, hother, heq⟩ := List.mem_map.mp hmem
        have hne := List.find?_eq_none.mp hfound other hother
        rw [beq_iff_eq, heq] at hne
        simp [hne]
    | some other =>
        have hname : other.fullName = name := by simpa using List.find?_some hfound
        by_cases heq : c.fullName = name
        · simp [hname, heq]
        · simp [hname, heq, Ne.symm heq]
  · rw [addContract, if_neg (mt any_fullName_iff.mp hmem), List.find?_append]
    by_cases heq : c.fullName = name
    · have hnone : contracts.find? (·.fullName == name) = none := by
        apply List.find?_eq_none.mpr
        intro other hother hother'
        rw [beq_iff_eq, ← heq] at hother'
        exact hmem (List.mem_map.mpr ⟨other, hother, hother'⟩)
      simp [hnone, heq]
    · simp [heq]

theorem mem_addContract {contracts : List Contract} {c other : Contract}
    (h : other ∈ addContract contracts c) : other = c ∨ other ∈ contracts := by
  unfold addContract at h
  split at h
  · obtain ⟨first, hfirst, rfl⟩ := List.mem_map.mp h
    by_cases heq : first.fullName = c.fullName
    · simp [heq]
    · simp [heq, hfirst]
  · simpa [or_comm] using h

/-- The full names are kept in the order in which they first occur. -/
theorem map_fullName_foldl_addContract (contracts : List Contract) :
    (contracts.foldl addContract []).map Contract.fullName =
      (contracts.map Contract.fullName).reverse.dedup.reverse := by
  induction contracts using List.reverseRecOn with
  | nil => rfl
  | append_singleton contracts c ih =>
      rw [List.foldl_append, List.foldl_cons, List.foldl_nil, map_fullName_addContract, ih,
        List.map_append, List.map_singleton, List.reverse_append, List.reverse_singleton,
        List.singleton_append, List.dedup_cons]
      by_cases hmem : c.fullName ∈ contracts.map Contract.fullName
      · simp [hmem]
      · simp [hmem]

/-- Of the contracts with one full name the last is kept. -/
theorem find?_foldl_addContract (contracts : List Contract) (name : String) :
    (contracts.foldl addContract []).find? (·.fullName == name) =
      contracts.reverse.find? (·.fullName == name) := by
  induction contracts using List.reverseRecOn with
  | nil => rfl
  | append_singleton contracts c ih =>
      rw [List.foldl_append, List.foldl_cons, List.foldl_nil, find?_addContract, ih,
        List.reverse_append, List.reverse_singleton, List.singleton_append]
      by_cases heq : c.fullName = name
      · simp [heq]
      · simp [heq]

theorem mem_of_mem_foldl_addContract {contracts : List Contract} {c : Contract}
    (h : c ∈ contracts.foldl addContract []) : c ∈ contracts := by
  induction contracts using List.reverseRecOn with
  | nil => exact h
  | append_singleton contracts last ih =>
      rw [List.foldl_append, List.foldl_cons, List.foldl_nil] at h
      rcases mem_addContract h with rfl | hmem
      · simp
      · simp [ih hmem]

/-! ## Contracts of the entries -/

theorem fullName_of_ofEntry {key : String} {entry : Json} {c : Contract}
    (h : Contract.ofEntry key entry = .ok c) : c.fullName = Contract.knownAs key := by
  obtain ⟨-, hname⟩ := Contract.ofEntry_eq_ok_iff.mp h
  rw [Contract.knownAs, ← hname]
  rfl

theorem not_mem_name_of_ofEntry {key : String} {entry : Json} {c : Contract}
    (h : Contract.ofEntry key entry = .ok c) : ':' ∉ c.name.toList := by
  obtain ⟨-, hname⟩ := Contract.ofEntry_eq_ok_iff.mp h
  have hsecond : c.name = (Contract.splitName key).2 := congrArg Prod.snd hname
  rw [hsecond]
  exact Contract.not_mem_name_splitName key

theorem map_knownAs_eq_self {keys : List String}
    (h : ∀ key ∈ keys, ¬Contract.HasEmptyPath key) : keys.map Contract.knownAs = keys := by
  calc
    keys.map Contract.knownAs = keys.map id := by
      apply List.map_congr_left
      intro key hkey
      exact Contract.knownAs_of_not_hasEmptyPath (h key hkey)
    _ = keys := List.map_id keys

theorem nodup_map_knownAs_iff {keys : List String} (hkeys : keys.Nodup) :
    (keys.map Contract.knownAs).Nodup ↔
      ∀ key ∈ keys, ':' ∉ key.toList → ":" ++ key ∉ keys := by
  rw [List.nodup_map_iff_inj_on hkeys]
  constructor
  · intro hinjective key hkey hcolon htwin
    have hpath : ¬Contract.HasEmptyPath key := by
      rintro ⟨name, -, rfl⟩
      simp at hcolon
    have hknown : Contract.knownAs key = Contract.knownAs (":" ++ key) := by
      rw [Contract.knownAs_of_empty_path hcolon,
        Contract.knownAs_of_not_hasEmptyPath hpath]
    have heq := hinjective key hkey _ htwin hknown
    rw [heq] at hcolon
    simp at hcolon
  · intro htwins key hkey other hother heq
    rcases Contract.eq_or_twin_of_knownAs_eq heq with
      hsame | ⟨hcolon, rfl⟩ | ⟨hcolon, rfl⟩
    · exact hsame
    · exact (htwins key hkey hcolon hother).elim
    · exact (htwins other hother hcolon hkey).elim

section Entries

variable {entries : Json.Members} {contracts : List Contract}
  (hread : (entries.mapM fun entry => Contract.ofEntry entry.1 entry.2) = .ok contracts)

include hread

theorem map_fullName_of_mapM :
    contracts.map Contract.fullName =
      (entries.map fun entry => entry.1).map Contract.knownAs := by
  have hall := mapM_eq_ok_iff.mp hread
  clear hread
  induction hall with
  | nil => rfl
  | cons hentry _ ih => simp [fullName_of_ofEntry hentry, ih]

theorem not_hasEmptyPath_of_mem_keys {key : String}
    (hkey : key ∈ (contracts.foldl addContract []).map Contract.fullName) :
    ¬Contract.HasEmptyPath key := by
  rw [map_fullName_foldl_addContract, map_fullName_of_mapM hread, List.mem_reverse,
    List.mem_dedup, List.mem_reverse] at hkey
  obtain ⟨original, -, rfl⟩ := List.mem_map.mp hkey
  exact Contract.not_hasEmptyPath_knownAs original

theorem map_fullName_eq_keys_iff
    (hkeys : (entries.map fun entry => entry.1).Nodup) :
    (contracts.foldl addContract []).map Contract.fullName =
        (entries.map fun entry => entry.1) ↔
      ∀ entry ∈ entries, ¬Contract.HasEmptyPath entry.1 := by
  constructor
  · intro heq entry hentry
    apply not_hasEmptyPath_of_mem_keys hread
    rw [heq]
    exact List.mem_map_of_mem hentry
  · intro hpaths
    have hsame := map_knownAs_eq_self (List.forall_mem_map.mpr hpaths)
    rw [map_fullName_foldl_addContract, map_fullName_of_mapM hread, hsame,
      List.dedup_eq_self.mpr (List.nodup_reverse.mpr hkeys), List.reverse_reverse]

theorem length_eq_length_iff
    (hkeys : (entries.map fun entry => entry.1).Nodup) :
    (contracts.foldl addContract []).length = entries.length ↔
      ∀ key ∈ entries.map fun entry => entry.1, ':' ∉ key.toList →
        ":" ++ key ∉ entries.map fun entry => entry.1 := by
  let names := (entries.map fun entry => entry.1).map Contract.knownAs
  have hkept : (contracts.foldl addContract []).length = names.reverse.dedup.length := by
    have hnames := congrArg List.length (map_fullName_foldl_addContract contracts)
    rwa [map_fullName_of_mapM hread, List.length_map, List.length_reverse] at hnames
  have hall : entries.length = names.reverse.length := by simp [names]
  rw [← nodup_map_knownAs_iff hkeys, hkept, hall]
  constructor
  · intro hlength
    have hself := (List.dedup_sublist _).eq_of_length hlength
    exact List.nodup_reverse.mp (List.dedup_eq_self.mp hself)
  · intro hnodup
    rw [List.dedup_eq_self.mpr (List.nodup_reverse.mpr hnodup)]

/-! ## Finding a contract by a key -/

theorem find_eq_unknown {key : String}
    (hpath : Contract.HasEmptyPath key) :
    find (contracts.foldl addContract []) key = .error (.unknownContract key) := by
  have hfull : (contracts.foldl addContract []).find? (·.fullName == key) = none := by
    apply List.find?_eq_none.mpr
    intro c hc heq
    rw [beq_iff_eq] at heq
    exact not_hasEmptyPath_of_mem_keys hread (List.mem_map.mpr ⟨c, hc, heq⟩) hpath
  have hshort : (contracts.foldl addContract []).filter (·.name == key) = [] := by
    apply List.filter_eq_nil_iff.mpr
    intro c hc heq
    rw [beq_iff_eq] at heq
    obtain ⟨entry, -, hentry⟩ :=
      exists_of_mapM_eq_ok hread (mem_of_mem_foldl_addContract hc)
    have hcolon := not_mem_name_of_ofEntry hentry
    obtain ⟨name, -, rfl⟩ := hpath
    rw [heq] at hcolon
    simp at hcolon
  rw [find, hfull]
  simp only [hshort]

end Entries

theorem find_of_find?_eq_some {contracts : List Contract} {c : Contract} {name : String}
    (h : contracts.find? (·.fullName == name) = some c) : find contracts name = .ok c := by
  rw [find, h]

/-- A key that is its contract's full name finds the contract of its entry, if no
later entry has the same full name. -/
theorem exists_find_eq_ok
    {front back : Json.Members} {entry : String × Json} {contracts : List Contract}
    (h : ((front ++ entry :: back).mapM fun entry =>
      Contract.ofEntry entry.1 entry.2) = .ok contracts)
    (hpath : ¬Contract.HasEmptyPath entry.1)
    (hback : ∀ other ∈ back, Contract.knownAs other.1 ≠ entry.1) :
    ∃ c, find (contracts.foldl addContract []) entry.1 = .ok c ∧ c.HasMapsOf entry.2 := by
  rw [mapM_append_eq, bind_eq_ok_iff] at h
  obtain ⟨before, -, h⟩ := h
  obtain ⟨rest, hrest, rfl⟩ := map_eq_ok_iff.mp h
  obtain ⟨c, after, hc, hafter, rfl⟩ :=
    List.forall₂_cons_left_iff.mp (mapM_eq_ok_iff.mp hrest)
  obtain ⟨hmaps, -⟩ := Contract.ofEntry_eq_ok_iff.mp hc
  refine ⟨c, find_of_find?_eq_some ?_, hmaps⟩
  have hname : c.fullName = entry.1 :=
    (fullName_of_ofEntry hc).trans (Contract.knownAs_of_not_hasEmptyPath hpath)
  have hlater : after.reverse.find? (·.fullName == entry.1) = none := by
    apply List.find?_eq_none.mpr
    intro other hother heq
    rw [beq_iff_eq] at heq
    obtain ⟨original, horiginal, hread⟩ :=
      exists_of_mapM_eq_ok (mapM_eq_ok_iff.mpr hafter) (List.mem_reverse.mp hother)
    exact hback original horiginal ((fullName_of_ofEntry hread).symm.trans heq)
  rw [find?_foldl_addContract, List.reverse_append, List.reverse_cons, List.append_assoc,
    List.find?_append, hlater]
  simp [hname]

/-- The full names of the contracts of loaded output are the keys of the entries,
each of which an object has once, unless a key has an empty path.  As many contracts
are kept as there are entries unless one key is another behind a colon.  A key
without an empty path finds the contract of its entry, unless that was replaced; any
other key finds nothing. -/
theorem find_key_of_load
    {members entries : Json.Members} {a : Artifacts}
    (hcontracts : members.get? "contracts" = some (.obj entries))
    (hkeys : (entries.map fun entry => entry.1).Nodup)
    (hload : load (.obj members) = .ok a) :
    (a.contracts.map Contract.fullName = (entries.map fun entry => entry.1) ↔
      ∀ entry ∈ entries, ¬Contract.HasEmptyPath entry.1) ∧
    (a.contracts.length = entries.length ↔
      ∀ key ∈ entries.map fun entry => entry.1, ':' ∉ key.toList →
        ":" ++ key ∉ entries.map fun entry => entry.1) ∧
    (∀ front entry back, entries = front ++ entry :: back →
      ¬Contract.HasEmptyPath entry.1 →
      (':' ∉ entry.1.toList → ":" ++ entry.1 ∉ back.map fun other => other.1) →
      ∃ c, find a.contracts entry.1 = .ok c ∧ c.HasMapsOf entry.2) ∧
    ∀ entry ∈ entries, Contract.HasEmptyPath entry.1 →
      find a.contracts entry.1 = .error (.unknownContract entry.1) := by
  obtain ⟨members', sources, entries', trees, index, contracts, htrees, -, hread, -, rfl⟩ :=
    load_eq_ok_iff.mp hload
  obtain rfl := Json.obj.inj htrees.eq_obj
  obtain rfl : entries = entries' :=
    Json.obj.inj (Option.some.inj (hcontracts.symm.trans htrees.contracts_eq))
  refine ⟨map_fullName_eq_keys_iff hread hkeys, length_eq_length_iff hread hkeys, ?_,
    fun entry _ hpath => find_eq_unknown hread hpath⟩
  rintro front entry back rfl hpath htwin
  refine exists_find_eq_ok hread hpath fun other hother heq => ?_
  rcases Contract.eq_or_eq_of_knownAs_eq heq with hsame | ⟨hcolon, hother'⟩
  · rw [List.map_append, List.map_cons] at hkeys
    have hfresh := (List.nodup_cons.mp hkeys.of_append_right).1
    exact hfresh (List.mem_map.mpr ⟨other, hother, hsame⟩)
  · exact htwin hcolon (List.mem_map.mpr ⟨other, hother, hother'⟩)

/-- Output without sources and with a contract without code for each key. -/
def keyedOutput (keys : List String) : Json.Members :=
  [("sources", .obj []), ("contracts", .obj (keys.map fun key => (key, .obj [])))]

theorem load_keyedOutput {keys : List String} {contracts : List Contract}
    (hread : ((keys.map fun key => (key, Json.obj [])).mapM fun entry =>
      Contract.ofEntry entry.1 entry.2) = .ok contracts) :
    load (.obj (keyedOutput keys)) = .ok ⟨contracts.foldl addContract [], ⟨∅, ∅⟩, []⟩ :=
  (load_eq_ok_iff_of_hasTrees ⟨⟨rfl, rfl, rfl⟩, .nil⟩).mpr
    ⟨_, contracts, Ast.Index.ofForest_nil, hread, List.forall_mem_nil _, rfl⟩

/-- Not all of three contracts are kept; the key with a path finds its contract, and
the key with an empty path finds nothing. -/
theorem find_key_of_load_threeKeys :
    ∃ a, load (.obj (keyedOutput ["a.sol:A", "A", ":A"])) = .ok a ∧
      a.contracts.length ≠ 3 ∧
      (∃ c, find a.contracts "a.sol:A" = .ok c ∧ c.HasMapsOf (.obj [])) ∧
      find a.contracts ":A" = .error (.unknownContract ":A") := by
  have hpath : ¬Contract.HasEmptyPath "a.sol:A" := by
    rintro ⟨name, -, hname⟩
    have hhead := congrArg (fun text => text.toList.head?) hname
    simp at hhead
  have hempty : Contract.HasEmptyPath ":A" := ⟨"A", by decide, by decide⟩
  obtain ⟨a, ha⟩ : ∃ a, load (.obj (keyedOutput ["a.sol:A", "A", ":A"])) = .ok a :=
    ⟨_, load_keyedOutput rfl⟩
  obtain ⟨-, hlength, hfound, hunknown⟩ := find_key_of_load rfl (by decide) ha
  refine ⟨a, ha, fun hthree => ?_, ?_, hunknown (":A", .obj []) (by simp) hempty⟩
  · exact hlength.mp hthree "A" (by simp) (by decide) (by simp)
  · exact hfound [] ("a.sol:A", .obj []) _ rfl hpath fun hcolon => by simp at hcolon

/-- Not every key of an entry is the full name of a contract, and not every key
finds the contract of its entry. -/
theorem not_all_keys_found :
    ¬∀ (members entries : Json.Members) (a : Artifacts),
      members.get? "contracts" = some (.obj entries) →
      (entries.map fun entry => entry.1).Nodup → load (.obj members) = .ok a →
      a.contracts.map Contract.fullName = (entries.map fun entry => entry.1) ∧
        ∀ entry ∈ entries, ∃ c, find a.contracts entry.1 = .ok c ∧ c.HasMapsOf entry.2 := by
  intro hall
  have htwins : load (.obj (keyedOutput ["A", ":A"])) =
      .ok ⟨[⟨"A", "", [], []⟩], ⟨∅, ∅⟩, []⟩ :=
    (load_keyedOutput rfl).trans rfl
  obtain ⟨hnames, -⟩ := hall _ _ _ rfl (by decide) htwins
  exact absurd hnames (by decide)

end Artifacts

end SolidityLayout
