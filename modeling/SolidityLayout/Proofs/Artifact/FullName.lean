import SolidityLayout.Artifact.Contract
import SolidityLayout.Proofs.Text.Stripping

/-!
# Full names of contracts

A full name is split at its last colon.  Joining the two parts gives the full
name back unless there is nothing in front of that colon: the colon is then
lost, and no contract is known by such a full name.
-/

namespace SolidityLayout.Contract

open Text

theorem forall_mem_reverse_bne {cs : List Char} (h : ':' ∉ cs) :
    ∀ c ∈ cs.reverse, (c != ':') = true := by
  intro c hc
  rw [bne_iff_ne]
  rintro rfl
  exact h (List.mem_reverse.mp hc)

theorem splitName_of_not_mem {cs : List Char} (h : ':' ∉ cs) :
    splitName (String.ofList cs) = ("", String.ofList cs) := by
  have hall := forall_mem_reverse_bne h
  have hnil : ∀ c ∈ ([] : List Char).head?, (c != ':') = false := by simp
  have htake := takeWhile_append_of_head? hall hnil
  have hdrop := dropWhile_append_of_head? hall hnil
  rw [List.append_nil] at htake hdrop
  simp [splitName, htake, hdrop]

theorem splitName_append (path : List Char) {name : List Char} (h : ':' ∉ name) :
    splitName (String.ofList (path ++ ':' :: name)) =
      (String.ofList path, String.ofList name) := by
  have hall := forall_mem_reverse_bne h
  have hcolon : ∀ c ∈ (':' :: path.reverse).head?, (c != ':') = false := by simp
  have hreverse : (path ++ ':' :: name).reverse = name.reverse ++ ':' :: path.reverse := by
    simp
  simp only [splitName, String.toList_ofList, hreverse,
    takeWhile_append_of_head? hall hcolon, dropWhile_append_of_head? hall hcolon,
    List.drop_one, List.tail_cons, List.reverse_reverse]

/-- A full name without a colon is a name alone; any other is cut at the last of
its colons. -/
theorem splitName_cases (fullName : String) :
    (':' ∉ fullName.toList ∧ splitName fullName = ("", fullName)) ∨
      ∃ path name : String, ':' ∉ name.toList ∧ fullName = path ++ ":" ++ name ∧
        splitName fullName = (path, name) := by
  by_cases hmem : ':' ∈ fullName.toList
  · have hreverse : ':' ∈ fullName.toList.reverse := List.mem_reverse.mpr hmem
    obtain ⟨back, front, hsplit, hback⟩ := List.eq_append_cons_of_mem hreverse
    have hlist : fullName.toList = front.reverse ++ ':' :: back.reverse := by
      rw [← List.reverse_reverse fullName.toList, hsplit]
      simp
    have hname : ':' ∉ back.reverse := fun h => hback (List.mem_reverse.mp h)
    refine Or.inr ⟨String.ofList front.reverse, String.ofList back.reverse, ?_, ?_, ?_⟩
    · rwa [String.toList_ofList]
    · apply String.toList_inj.mp
      simp [hlist]
    · rw [← String.ofList_toList (s := fullName), hlist]
      exact splitName_append _ hname
  · have hsplit := splitName_of_not_mem hmem
    rw [String.ofList_toList] at hsplit
    exact Or.inl ⟨hmem, hsplit⟩

/-- A full name whose only colon has nothing in front of it. -/
def HasEmptyPath (fullName : String) : Prop :=
  ∃ name : String, ':' ∉ name.toList ∧ fullName = ":" ++ name

theorem not_mem_name_splitName (fullName : String) :
    ':' ∉ (splitName fullName).2.toList := by
  rcases splitName_cases fullName with ⟨hcolon, hsplit⟩ | ⟨path, name, hname, -, hsplit⟩
  · rwa [hsplit]
  · rwa [hsplit]

theorem joinName_splitName {fullName : String} (h : ¬HasEmptyPath fullName) :
    joinName (splitName fullName).1 (splitName fullName).2 = fullName := by
  rcases splitName_cases fullName with ⟨-, hsplit⟩ | ⟨path, name, hname, rfl, hsplit⟩
  · rw [hsplit]
    rfl
  · rw [hsplit, joinName]
    split
    · rename_i hempty
      obtain rfl := String.isEmpty_iff.mp hempty
      exact (h ⟨name, hname, by simp⟩).elim
    · rfl

/-- Joining never gives a full name that has an empty path. -/
theorem not_hasEmptyPath_joinName {path name : String} (hname : ':' ∉ name.toList) :
    ¬HasEmptyPath (joinName path name) := by
  rintro ⟨rest, hrest, heq⟩
  rw [joinName] at heq
  split at heq
  · rw [heq] at hname
    simp at hname
  · rename_i hpath
    have hlist : path.toList ++ ':' :: name.toList = ':' :: rest.toList := by
      simpa using congrArg String.toList heq
    -- The path starts with the colon, so the one behind it is in the rest.
    cases hchars : path.toList with
    | nil =>
        rw [String.isEmpty_iff, ← String.toList_eq_nil_iff] at hpath
        exact hpath hchars
    | cons c cs =>
        rw [hchars] at hlist
        obtain ⟨-, htail⟩ := List.cons.inj hlist
        rw [← htail] at hrest
        simp at hrest

/-- The full name of the contract that is read from an entry with a given key. -/
def knownAs (key : String) : String :=
  joinName (splitName key).1 (splitName key).2

theorem not_hasEmptyPath_knownAs (key : String) : ¬HasEmptyPath (knownAs key) :=
  not_hasEmptyPath_joinName (not_mem_name_splitName key)

theorem knownAs_of_not_hasEmptyPath {key : String} (h : ¬HasEmptyPath key) :
    knownAs key = key :=
  joinName_splitName h

theorem knownAs_of_empty_path {name : String} (hname : ':' ∉ name.toList) :
    knownAs (":" ++ name) = name := by
  have hsplit := splitName_append [] hname
  have hkey : ":" ++ name = String.ofList ([] ++ ':' :: name.toList) := by
    apply String.toList_inj.mp
    simp
  rw [knownAs, hkey, hsplit, String.ofList_toList]
  rfl

/-- Two keys give one full name only if one of them is the other behind a colon. -/
theorem eq_or_eq_of_knownAs_eq {key other : String} (h : knownAs other = key) :
    other = key ∨ ':' ∉ key.toList ∧ other = ":" ++ key := by
  by_cases hempty : HasEmptyPath other
  · obtain ⟨name, hname, rfl⟩ := hempty
    rw [knownAs_of_empty_path hname] at h
    subst h
    exact Or.inr ⟨hname, rfl⟩
  · rw [knownAs_of_not_hasEmptyPath hempty] at h
    exact Or.inl h

theorem eq_or_twin_of_knownAs_eq {key other : String} (h : knownAs key = knownAs other) :
    key = other ∨ (':' ∉ key.toList ∧ other = ":" ++ key) ∨
      (':' ∉ other.toList ∧ key = ":" ++ other) := by
  by_cases hempty : HasEmptyPath key
  · obtain ⟨name, hname, rfl⟩ := hempty
    rw [knownAs_of_empty_path hname] at h
    rcases eq_or_eq_of_knownAs_eq h.symm with rfl | ⟨-, rfl⟩
    · exact Or.inr (Or.inr ⟨hname, rfl⟩)
    · exact Or.inl rfl
  · rw [knownAs_of_not_hasEmptyPath hempty] at h
    rcases eq_or_eq_of_knownAs_eq h.symm with rfl | ⟨hcolon, rfl⟩
    · exact Or.inl rfl
    · exact Or.inr (Or.inl ⟨hcolon, rfl⟩)

end SolidityLayout.Contract
