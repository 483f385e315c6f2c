import Mathlib.Tactic.NormNum
import SolidityLayout.Proofs.Contract.Containment
import SolidityLayout.Proofs.Contract.Inheritance
import SolidityLayout.Proofs.Number.Floor
import SolidityLayout.Proofs.Number.Overflow

/-!
# Ids of ancestors from a list of numbers

The ancestors of a contract are listed as numbers: an integer stands for itself
and a finite floating-point number for its floor.  The ids are those of the
entries in the opposite order.  An integer next to which there is only an infinite
floating-point number is refused all the same, although it is an id like any other,
and of several entries that are refused the first one decides the failure.
-/

namespace SolidityLayout

open Ast Attempt Number

/-- A value is refused for a cause that shows it.  A value with an integer beyond
the digit limit cannot be shown, and the refusal fails for that. -/
def IsRefusal (value : Json) (cause : MalformedTree) (failure : Failure) : Prop :=
  value.isShowable = true ∧ failure = .layout (.malformedTree cause) ∨
    value.isShowable = false ∧ failure = .longNumber

theorem isRefusal_iff {value : Json} {cause : MalformedTree} {failure : Failure}
    (hshow : cause.isShowable = value.isShowable) :
    IsRefusal value cause failure ↔ LayoutError.failure (.malformedTree cause) = failure := by
  have herror : (LayoutError.malformedTree cause).isShowable = value.isShowable := hshow
  rw [IsRefusal, LayoutError.failure, herror]
  by_cases h : value.isShowable = true
  · simp [h, eq_comm]
  · simp [h, eq_comm]

namespace Ancestry

/-- An entry of the list gives an id: an integer itself, a finite floating-point
number its floor. -/
inductive GivesId : Json → Int → Prop
  | integer (n : Int) : GivesId (.int n) n
  | float {x : Binary64} {value : ℚ} (hvalue : x.value? = some value) :
      GivesId (.float x) ⌊value⌋

/-- An entry is an integer or a finite floating-point number. -/
def IsNumeric (entry : Json) : Prop :=
  ∃ id, GivesId entry id

/-- An entry is an integer to which the nearest floating-point number is infinite. -/
def IsRemote (entry : Json) : Prop :=
  ∃ n : Int, entry = .int n ∧ Binary64.nearest n = .infinite (decide (n < 0))

theorem isRemote_int_iff {n : Int} : IsRemote (.int n) ↔ Binary64.isTooLarge n = true := by
  rw [Binary64.isTooLarge_iff_nearest]
  constructor
  · intro h
    obtain ⟨m, hm, hnearest⟩ := h
    rwa [Json.int.inj hm]
  · intro h
    exact ⟨n, rfl, h⟩

/-! ## Single entries -/

theorem givesId_int_iff {n id : Int} : GivesId (.int n) id ↔ n = id := by
  constructor
  · intro h
    cases h
    rfl
  · intro h
    rw [← h]
    exact .integer n

theorem givesId_float_iff {x : Binary64} {id : Int} :
    GivesId (.float x) id ↔ x.floor? = some id := by
  rw [Binary64.floor?_eq_map_value?, Option.map_eq_some_iff]
  constructor
  · intro h
    cases h with
    | float hvalue => exact ⟨_, hvalue, rfl⟩
  · intro h
    obtain ⟨value, hvalue, hfloor⟩ := h
    rw [← hfloor]
    exact .float hvalue

theorem IsRemote.isNumeric {entry : Json} (h : IsRemote entry) : IsNumeric entry := by
  obtain ⟨n, rfl, -⟩ := h
  exact ⟨n, .integer n⟩

/-- An entry is either of no use as a number, or too large, or gives its id. -/
theorem idOfEntry_cases (entry : Json) :
    (¬IsNumeric entry ∧
      idOfEntry entry = .error (LayoutError.failure (.malformedTree (.baseNotNumeric entry)))) ∨
    (IsRemote entry ∧ idOfEntry entry = .error .tooLarge) ∨
    ∃ id, GivesId entry id ∧ ¬IsRemote entry ∧ idOfEntry entry = .ok id := by
  cases entry with
  | int n =>
      by_cases hlarge : Binary64.isTooLarge n = true
      · exact Or.inr (Or.inl ⟨isRemote_int_iff.mpr hlarge, by rw [idOfEntry, if_pos hlarge]⟩)
      · exact Or.inr (Or.inr ⟨n, .integer n, mt isRemote_int_iff.mp hlarge,
          by rw [idOfEntry, if_neg hlarge]⟩)
  | float x =>
      by_cases hfinite : ∃ id, x.floor? = some id
      · obtain ⟨id, hid⟩ := hfinite
        have hnear : ¬IsRemote (.float x) := by simp [IsRemote]
        refine Or.inr (Or.inr ⟨id, givesId_float_iff.mpr hid, hnear, ?_⟩)
        simp only [idOfEntry, hid]
      · have hnone : x.floor? = none := by
          rw [Option.eq_none_iff_forall_ne_some]
          exact fun id hid => hfinite ⟨id, hid⟩
        refine Or.inl ⟨?_, by simp only [idOfEntry, hnone]⟩
        intro h
        obtain ⟨id, hid⟩ := h
        exact hfinite ⟨id, givesId_float_iff.mp hid⟩
  | _ =>
      refine Or.inl ⟨?_, rfl⟩
      intro h
      obtain ⟨id, hid⟩ := h
      cases hid

theorem GivesId.unique {entry : Json} {m n : Int} (hm : GivesId entry m)
    (hn : GivesId entry n) : m = n := by
  cases hm with
  | integer => exact givesId_int_iff.mp hn
  | float hvalue =>
      have hfloor := givesId_float_iff.mp (GivesId.float hvalue)
      exact Option.some.inj (hfloor.symm.trans (givesId_float_iff.mp hn))

theorem idOfEntry_eq_ok_iff {entry : Json} {id : Int} :
    idOfEntry entry = .ok id ↔ ¬IsRemote entry ∧ GivesId entry id := by
  obtain ⟨hnot, heq⟩ | ⟨hremote, heq⟩ | ⟨own, hown, hnear, heq⟩ := idOfEntry_cases entry
  · have hnone : ¬GivesId entry id := fun h => hnot ⟨id, h⟩
    simp [heq, hnone]
  · simp [heq, hremote]
  · rw [heq, Except.ok.injEq]
    constructor
    · intro h
      rw [← h]
      exact ⟨hnear, hown⟩
    · intro h
      exact hown.unique h.2

theorem exists_idOfEntry_eq_ok_iff {entry : Json} :
    (∃ id, idOfEntry entry = .ok id) ↔ ¬IsRemote entry ∧ IsNumeric entry := by
  simp only [idOfEntry_eq_ok_iff, exists_and_left, IsNumeric]

theorem idOfEntry_eq_error_iff {entry : Json} {failure : Failure} :
    idOfEntry entry = .error failure ↔
      IsRemote entry ∧ failure = .tooLarge ∨
        ¬IsNumeric entry ∧ IsRefusal entry (.baseNotNumeric entry) failure := by
  rw [isRefusal_iff rfl]
  obtain ⟨hnot, heq⟩ | ⟨hremote, heq⟩ | ⟨own, hown, hnear, heq⟩ := idOfEntry_cases entry
  · have hnear : ¬IsRemote entry := fun h => hnot h.isNumeric
    simp [heq, hnot, hnear]
  · simp [heq, hremote, hremote.isNumeric, eq_comm]
  · have hnumeric : IsNumeric entry := ⟨own, hown⟩
    simp [heq, hnear, hnumeric]

/-! ## Lists of entries -/

section Listed

variable {contract : Node} {entries : List Json}
  (hlisted : contract.attribute? "linearizedBaseContracts" = some (.arr entries))

include hlisted

theorem ofContract_eq_ok_iff {ids : List Int} :
    ofContract contract = .ok ids ↔
      (∀ entry ∈ entries, ¬IsRemote entry) ∧ List.Forall₂ GivesId entries.reverse ids := by
  have hread : ∀ found, entries.mapM idOfEntry = .ok found ↔
      (∀ entry ∈ entries, ¬IsRemote entry) ∧ List.Forall₂ GivesId entries found := by
    intro found
    simp only [mapM_eq_ok_iff, idOfEntry_eq_ok_iff, List.forall₂_and_left]
  rw [ofContract_of_listed hlisted, map_eq_ok_iff]
  constructor
  · intro h
    obtain ⟨found, hfound, rfl⟩ := h
    obtain ⟨hnear, hids⟩ := (hread found).mp hfound
    exact ⟨hnear, List.forall₂_reverse_iff.mpr hids⟩
  · intro h
    obtain ⟨hnear, hids⟩ := h
    rw [← List.reverse_reverse ids, List.forall₂_reverse_iff] at hids
    exact ⟨ids.reverse, (hread ids.reverse).mpr ⟨hnear, hids⟩, List.reverse_reverse ids⟩

theorem ofContract_eq_error_iff {failure : Failure} :
    ofContract contract = .error failure ↔
      ∃ front entry back, entries = front ++ entry :: back ∧
        (∀ other ∈ front, ¬IsRemote other ∧ IsNumeric other) ∧
        (IsRemote entry ∧ failure = .tooLarge ∨
          ¬IsNumeric entry ∧ IsRefusal entry (.baseNotNumeric entry) failure) := by
  rw [ofContract_of_listed hlisted, map_eq_error_iff, mapM_eq_error_iff]
  simp only [exists_idOfEntry_eq_ok_iff, idOfEntry_eq_error_iff]

end Listed

theorem ofContract_of_not_listed {contract : Node} {value : Json}
    (hvalue : contract.attribute? "linearizedBaseContracts" = some value)
    (hnull : value ≠ .null) (hlist : ∀ entries, value ≠ .arr entries) :
    ofContract contract =
      .error (LayoutError.failure (.malformedTree (.basesNotListed value))) := by
  unfold ofContract
  rw [hvalue]
  split
  · rename_i hnone
    cases hnone
  · rename_i hsome
    exact (hnull (Option.some.inj hsome)).elim
  · rename_i entries hsome
    exact (hlist entries (Option.some.inj hsome)).elim
  · rename_i other _ _ hsome
    rw [Option.some.inj hsome]

theorem ofContract_of_absent {contract : Node}
    (h : contract.attribute? "linearizedBaseContracts" = none ∨
      contract.attribute? "linearizedBaseContracts" = some .null) :
    ofContract contract = noting contract.isShowable (.ok []) := by
  rcases h with h | h
  · rw [ofContract, h]
  · rw [ofContract, h]

/-- The ids of a list stand in the opposite order of the entries that give them. -/
theorem exists_givesId_of_forall₂ {entries : List Json} {ids : List Int}
    (h : List.Forall₂ GivesId entries.reverse ids) {i : Nat} (hi : i < ids.length) :
    ∃ entry id, entries[entries.length - 1 - i]? = some entry ∧ ids[i]? = some id ∧
      GivesId entry id := by
  have hreversed : i < entries.reverse.length := by rwa [h.length_eq]
  have hentry : i < entries.length := by rwa [List.length_reverse] at hreversed
  have hgives := h.get hreversed hi
  refine ⟨entries.reverse[i], ids[i], ?_, List.getElem?_eq_getElem hi, hgives⟩
  rw [← List.getElem?_reverse hentry, List.getElem?_eq_getElem hreversed]

/-- A list of integers and finite floating-point numbers gives their ids in the
opposite order, unless the floating-point number nearest to one of the integers is
infinite.  An entry of that kind and an entry that is no such number both fail,
each in its own way, and the first of them decides.  Any other value in the place
of the list is refused.  Without a value there are no ids, unless the contract has
an integer beyond the digit limit as its id or in its source location. -/
theorem ofContract_outcome (contract : Node) :
    (∀ entries, contract.attribute? "linearizedBaseContracts" = some (.arr entries) →
      (∀ ids, ofContract contract = .ok ids ↔
        (∀ entry ∈ entries, ¬IsRemote entry) ∧ List.Forall₂ GivesId entries.reverse ids) ∧
      (∀ failure, ofContract contract = .error failure ↔
        ∃ front entry back, entries = front ++ entry :: back ∧
          (∀ other ∈ front, ¬IsRemote other ∧ IsNumeric other) ∧
          (IsRemote entry ∧ failure = .tooLarge ∨
            ¬IsNumeric entry ∧ IsRefusal entry (.baseNotNumeric entry) failure)) ∧
      ∀ ids, ofContract contract = .ok ids →
        ids.length = entries.length ∧
          ∀ i < ids.length, ∃ entry id, entries[entries.length - 1 - i]? = some entry ∧
            ids[i]? = some id ∧ GivesId entry id) ∧
    (∀ value, contract.attribute? "linearizedBaseContracts" = some value →
      value ≠ .null → (∀ entries, value ≠ .arr entries) →
      ∃ failure, ofContract contract = .error failure ∧
        IsRefusal value (.basesNotListed value) failure) ∧
    (contract.attribute? "linearizedBaseContracts" = none ∨
        contract.attribute? "linearizedBaseContracts" = some .null →
      (contract.isShowable = true → ofContract contract = .ok []) ∧
        (contract.isShowable = false → ofContract contract = .error .longNumber)) := by
  refine ⟨?_, ?_, ?_⟩
  · intro entries hlisted
    refine ⟨fun _ => ofContract_eq_ok_iff hlisted, fun _ => ofContract_eq_error_iff hlisted, ?_⟩
    intro ids hids
    obtain ⟨-, hgives⟩ := (ofContract_eq_ok_iff hlisted).mp hids
    refine ⟨?_, fun i hi => exists_givesId_of_forall₂ hgives hi⟩
    rw [← hgives.length_eq, List.length_reverse]
  · intro value hvalue hnull hlist
    exact ⟨_, ofContract_of_not_listed hvalue hnull hlist, (isRefusal_iff rfl).mpr rfl⟩
  · intro habsent
    rw [ofContract_of_absent habsent]
    constructor
    · intro hshow
      rw [hshow, noting_true]
    · intro hshow
      rw [hshow, noting_false]

/-- A contract that lists the given entries. -/
def listingContract (entries : List Json) : Node :=
  .mk ⟨some "ContractDefinition", none, none,
    [("linearizedBaseContracts", .arr entries)]⟩ []

/-- The floating-point number `-2.5`. -/
def minusTwoAndHalf : Binary64 :=
  .finite true 5 (-1) (by decide)

theorem value?_minusTwoAndHalf : minusTwoAndHalf.value? = some (-5 / 2) := by
  rw [minusTwoAndHalf, Binary64.value?]
  norm_num

/-- A negative number between two integers gives the lower one, behind what follows
it in the list; behind an entry out of range a truth value no longer matters. -/
theorem ofContract_outcome_mixedNumbers :
    ofContract (listingContract [.float minusTwoAndHalf, .int 7]) = .ok [7, -3] ∧
    ofContract (listingContract [.int 7, .int Layout.remoteId, .bool true]) =
      .error .tooLarge := by
  have hfloor : ⌊(-5 / 2 : ℚ)⌋ = -3 := by norm_num
  have hremote : IsRemote (.int Layout.remoteId) :=
    isRemote_int_iff.mpr Layout.isTooLarge_remoteId
  have hnear : ¬IsRemote (.int 7) := mt isRemote_int_iff.mp (by decide +kernel)
  have hfloat : ¬IsRemote (.float minusTwoAndHalf) := by simp [IsRemote]
  constructor
  · refine (((ofContract_outcome _).1 _ rfl).1 _).mpr ⟨?_, ?_⟩
    · exact List.forall_mem_cons.mpr ⟨hfloat, List.forall_mem_singleton.mpr hnear⟩
    · rw [← hfloor]
      exact .cons (.integer 7) (.cons (.float value?_minusTwoAndHalf) .nil)
  · refine (((ofContract_outcome _).1 _ rfl).2.1 _).mpr
      ⟨[.int 7], .int Layout.remoteId, [.bool true], rfl, ?_, Or.inl ⟨hremote, rfl⟩⟩
    intro other hother
    rw [List.mem_singleton.mp hother]
    exact ⟨hnear, 7, .integer 7⟩

/-- Not every list of integers and finite floating-point numbers gives ids. -/
theorem not_all_numeric_lists_give_ids :
    ¬∀ (contract : Node) (entries : List Json),
      contract.attribute? "linearizedBaseContracts" = some (.arr entries) →
      (∀ entry ∈ entries, IsNumeric entry) →
      ∃ ids, ofContract contract = .ok ids ∧ List.Forall₂ GivesId entries.reverse ids := by
  intro hall
  obtain ⟨ids, hids, -⟩ := hall (listingContract [.int Layout.remoteId]) _ rfl (by
    intro entry hentry
    rw [List.mem_singleton.mp hentry]
    exact ⟨_, .integer _⟩)
  obtain ⟨hnear, -⟩ := (ofContract_eq_ok_iff rfl).mp hids
  exact hnear _ (List.mem_singleton_self _) (isRemote_int_iff.mpr Layout.isTooLarge_remoteId)

end Ancestry

end SolidityLayout
