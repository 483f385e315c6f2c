import SolidityLayout.Proofs.Abi.ValueLanguage
import SolidityLayout.Proofs.Slot.SlotSpelling

/-!
# The language of slot types

A slot type is written as a value type, or as a mapping from a value type to a slot type,
with blanks between its parts.  Nothing in a value type can be taken for a parenthesis or
for an arrow, so the reader of slot types finds each part where it was written, and it
takes these texts and no others.
-/

namespace SolidityLayout.SlotType

open Text Attempt AbiType

/-- The texts of slot types.  The key of a mapping is a value type; its value may be a
mapping again. -/
inductive IsSlotText : List Char → SlotType → Prop
  | value {text cs : List Char} {t : AbiType} (htext : IsValueText text t)
      (hpadded : IsPadded text cs) : IsSlotText cs (ofValue t)
  | mapping {blanks key front inner cs : List Char} {k : AbiType} {t : SlotType}
      (hblanks : ∀ c ∈ blanks, isBlank c = true) (hkey : IsValueText key k)
      (hfront : IsPadded key front) (hinner : IsSlotText inner t)
      (hpadded : IsPadded ("mapping".toList ++ blanks ++
        '(' :: (front ++ '=' :: '>' :: inner ++ [')'])) cs) :
      IsSlotText cs (nest k t)

/-! ## Value types in a slot type -/

/-- The characters that structure a slot type are in no value type. -/
theorem not_mem_of_isPadded
    {text cs : List Char} {t : AbiType} (htext : IsValueText text t)
    (hpadded : IsPadded text cs) : '(' ∉ cs ∧ ')' ∉ cs ∧ '=' ∉ cs := by
  have hother : ∀ c ∈ ['(', ')', '='], ¬(Abi.IsNameCharacter c ∨ isBlank c = true ∨
      isDecimalDigit c = true ∨ c = '[' ∨ c = ']') := by
    intro c hc
    simp only [List.mem_cons, List.not_mem_nil, or_false] at hc
    rcases hc with rfl | rfl | rfl
    · decide
    · decide
    · decide
  have hno : ∀ c ∈ ['(', ')', '='], c ∉ cs := by
    rintro c hc hmem
    apply hother c hc
    obtain ⟨hbefore, hafter⟩ := hpadded
    rcases List.mem_append.mp hmem with hmem | hmem
    · rcases List.mem_append.mp hmem with hmem | hmem
      · exact Or.inr (Or.inl (hbefore c hmem))
      · exact htext.mem_cases hmem
    · exact Or.inr (Or.inl (hafter c hmem))
  exact ⟨hno '(' (by simp), hno ')' (by simp), hno '=' (by simp)⟩

/-- A value type can stand before the arrow of a mapping. -/
theorem isEnclosed_of_isPadded
    {text cs : List Char} {t : AbiType} (htext : IsValueText text t)
    (hpadded : IsPadded text cs) : IsEnclosed cs where
  depth := by
    obtain ⟨hopen, hclose, -⟩ := not_mem_of_isPadded htext hpadded
    exact depth_eq_zero_of_not_mem hopen hclose
  noArrow := by
    rintro i ⟨harrow, -⟩
    obtain ⟨-, -, hequals⟩ := not_mem_of_isPadded htext hpadded
    apply hequals
    exact List.mem_of_mem_drop (harrow.subset (by simp))

theorem ofSpelling_of_isPadded
    {text cs : List Char} {t : AbiType} (htext : IsValueText text t)
    (hpadded : IsPadded text cs) : ofSpelling Abi.readName cs = .ok (ofValue t) := by
  have hstrip : strip cs = text := by
    rw [hpadded.strip_eq, htext.strip_eq]
  have hvalue : AbiType.ofSpelling Abi.readName cs = .ok t := by
    rw [← AbiType.ofSpelling_strip, hstrip]
    exact htext.ofSpelling
  have hopen : afterOpening? (strip cs) = none := by
    rw [hstrip]
    exact afterOpening?_eq_none_of_not_mem
      (not_mem_of_isPadded htext (isPadded_self text)).1
  rw [ofSpelling_of_afterOpening?_eq_none _ hopen, hvalue]
  rfl

/-! ## Texts of slot types are read -/

/-- The text of a slot type is read as that type. -/
theorem IsSlotText.ofSpelling {cs : List Char} {t : SlotType} (h : IsSlotText cs t) :
    SlotType.ofSpelling Abi.readName cs = .ok t := by
  induction h with
  | value htext hpadded => exact ofSpelling_of_isPadded htext hpadded
  | mapping hblanks hkey hfront hinner hpadded ih =>
      rw [ofSpelling_mapping _ _ hblanks (isEnclosed_of_isPadded hkey hfront) hpadded,
        ofSpelling_of_isPadded hkey hfront]
      exact congrArg (Except.map (nest _)) ih

/-! ## Only texts of slot types are read -/

/-- What a text is taken apart into when it starts and ends like a mapping and has an
arrow. -/
theorem exists_eq_mapping
    {text inside : List Char} {i : Nat} (hopen : afterOpening? text = some inside)
    (hclose : text.getLast? = some ')') (harrow : topLevelArrow? inside.dropLast = some i) :
    ∃ blanks, (∀ c ∈ blanks, isBlank c = true) ∧
      text = "mapping".toList ++ blanks ++
        '(' :: (inside.dropLast.take i ++ '=' :: '>' :: inside.dropLast.drop (i + 2) ++
          [')']) := by
  obtain ⟨blanks, hblanks, rfl⟩ := afterOpening?_eq_some_iff.mp hopen
  refine ⟨blanks, hblanks, ?_⟩
  have hinside : inside = inside.dropLast ++ [')'] := by
    cases inside using List.reverseRecOn with
    | nil =>
        rw [List.getLast?_concat] at hclose
        cases hclose
    | append_singleton body c =>
        rw [← List.cons_append, ← List.append_assoc, List.getLast?_concat] at hclose
        rw [List.dropLast_concat, Option.some.inj hclose]
  obtain ⟨⟨⟨rest, hrest⟩, -⟩, -⟩ := topLevelArrow?_eq_some_iff.mp harrow
  have hdrop : inside.dropLast.drop (i + 2) = rest := by
    rw [← List.drop_drop, ← hrest]
    rfl
  have hbody : inside.dropLast =
      inside.dropLast.take i ++ '=' :: '>' :: inside.dropLast.drop (i + 2) := by
    calc
      inside.dropLast = inside.dropLast.take i ++ inside.dropLast.drop i :=
        (List.take_append_drop i _).symm
      _ = inside.dropLast.take i ++ '=' :: '>' :: inside.dropLast.drop (i + 2) := by
        rw [hdrop, ← hrest]
        rfl
  rw [← hbody, ← hinside]

theorem exists_isPadded_mapping
    {cs inside : List Char} {i : Nat} (hopen : afterOpening? (strip cs) = some inside)
    (hclose : (strip cs).getLast? = some ')') (harrow : topLevelArrow? inside.dropLast = some i) :
    ∃ blanks, (∀ c ∈ blanks, isBlank c = true) ∧
      IsPadded ("mapping".toList ++ blanks ++
        '(' :: (inside.dropLast.take i ++ '=' :: '>' :: inside.dropLast.drop (i + 2) ++
          [')'])) cs := by
  obtain ⟨blanks, hblanks, htext⟩ := exists_eq_mapping hopen hclose harrow
  refine ⟨blanks, hblanks, ?_⟩
  rw [← htext]
  exact isPadded_strip cs

/-- Only the text of a value type is read as a slot type that is no mapping. -/
theorem IsSlotText.exists_isPadded
    {cs : List Char} {t : SlotType} (h : IsSlotText cs t) (ht : t.isMapping = false) :
    ∃ text, IsValueText text t.value ∧ IsPadded text cs := by
  cases h with
  | value htext hpadded => exact ⟨_, htext, hpadded⟩
  | mapping => cases ht

/-- What is read is the text of a slot type. -/
theorem isSlotText_of_ofSpelling {cs : List Char} {t : SlotType}
    (h : ofSpelling Abi.readName cs = .ok t) : IsSlotText cs t := by
  fun_induction ofSpelling Abi.readName cs generalizing t with
  | case1 cs text =>
      obtain ⟨u, hu, rfl⟩ := map_eq_ok_iff.mp h
      have hvalue := isValueText_of_ofSpelling hu
      rw [strip_strip] at hvalue
      exact .value hvalue (isPadded_strip cs)
  | case6 cs text inside =>
      rename_i hopen hclose body i harrow key hkey hmapping ihKey ihInner
      obtain ⟨inner, hinner, rfl⟩ := map_eq_ok_iff.mp h
      obtain ⟨keyText, hkeyText, hfront⟩ :=
        (ihKey hkey).exists_isPadded (Bool.not_eq_true _ ▸ hmapping)
      obtain ⟨blanks, hblanks, hpadded⟩ :=
        exists_isPadded_mapping hopen (not_not.mp hclose) harrow
      exact .mapping hblanks hkeyText hfront (ihInner hinner) hpadded
  -- Nothing is read in the other cases.
  | _ => cases h

/-! ## The language that is read -/

/-- A text is read as a slot type exactly if it is the text of that type, and every text
of no slot type is an error. -/
theorem ofSpelling_outcome (cs : List Char) :
    (∀ t, ofSpelling Abi.readName cs = .ok t ↔ IsSlotText cs t) ∧
      ((¬∃ t, IsSlotText cs t) ↔
        ∃ failure, ofSpelling Abi.readName cs = .error failure) := by
  have hread : ∀ t, ofSpelling Abi.readName cs = .ok t ↔ IsSlotText cs t := by
    intro t
    constructor
    · exact isSlotText_of_ofSpelling
    · exact IsSlotText.ofSpelling
  exact ⟨hread, not_exists_iff_exists_error hread⟩

end SolidityLayout.SlotType
