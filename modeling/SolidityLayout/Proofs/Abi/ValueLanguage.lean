import SolidityLayout.Proofs.Abi.NameLanguage
import SolidityLayout.Proofs.Failure.Attempt

/-!
# The language of value types

A value type is written as a word that stands for an elementary type, with dimensions
behind it.  Unlike in a type name, blanks may stand before each of them, and a size may
be zero, start with zeros and be written in the digits of any script.  The reader of
value types takes exactly these texts, with blanks at either end.
-/

namespace SolidityLayout.AbiType

open Text Number Attempt

/-- The size that a row of digits denotes; an empty row denotes none. -/
def denotedSize? (digits : List Char) : Option Nat :=
  if digits = [] then none else some (ofDigits 10 (digits.filterMap digitValue?))

/-- The texts of value types, without blanks at their ends. -/
inductive IsValueText : List Char → AbiType → Prop
  | elementary {word : List Char} {e : Abi.Elementary} (hword : Abi.StandsFor word e) :
      IsValueText word (.elementary e.name)
  | array {cs blanks digits : List Char} {t : AbiType} (helement : IsValueText cs t)
      (hblanks : ∀ c ∈ blanks, isBlank c = true)
      (hdigits : ∀ d ∈ digits, isDecimalDigit d = true)
      (hlimit : digits.length ≤ digitLimit) :
      IsValueText (cs ++ blanks ++ '[' :: (digits ++ [']']))
        (t.arrayOf (denotedSize? digits))

/-- A row of digits is read as a size exactly if it is not too long. -/
theorem sizeOf?_eq_ok_iff {digits : List Char} {size : Option Nat} :
    sizeOf? digits = .ok size ↔
      digits.length ≤ digitLimit ∧ size = denotedSize? digits := by
  rw [sizeOf?, denotedSize?]
  by_cases hempty : digits = []
  · subst hempty
    rw [if_pos List.isEmpty_nil, if_pos rfl]
    constructor
    · intro h
      exact ⟨Nat.zero_le _, (Except.ok.inj h).symm⟩
    · rintro ⟨-, rfl⟩
      rfl
  · rw [if_neg (by simpa using hempty), if_neg hempty]
    by_cases hlimit : digitLimit < digits.length
    · rw [if_pos hlimit]
      constructor
      · intro h
        cases h
      · rintro ⟨hshort, -⟩
        exact absurd hshort (Nat.not_le.mpr hlimit)
    · rw [if_neg hlimit]
      constructor
      · intro h
        exact ⟨Nat.not_lt.mp hlimit, (Except.ok.inj h).symm⟩
      · rintro ⟨-, rfl⟩
        rfl

/-! ## Characters of a value type -/

namespace IsValueText

variable {cs : List Char} {t : AbiType}

theorem ne_nil (h : IsValueText cs t) : cs ≠ [] := by
  cases h with
  | elementary hword => exact hword.ne_nil
  | array => simp

/-- A value type has no blank at its ends. -/
theorem strip_eq (h : IsValueText cs t) : strip cs = cs := by
  induction h with
  | elementary hword => exact (Abi.isAtomic_of_forall fun _ => hword.isNameCharacter).stripped
  | @array front blanks digits _ helement _ _ _ ih =>
      rw [strip_eq_self_iff] at ih ⊢
      have hlast : (front ++ blanks ++ '[' :: (digits ++ [']'])).getLast? = some ']' := by
        rw [← List.cons_append, ← List.append_assoc, List.getLast?_concat]
      rw [hlast, List.append_assoc, List.head?_append_of_ne_nil _ helement.ne_nil]
      refine ⟨ih.1, ?_⟩
      rintro c ⟨⟩
      decide

/-- Value types are made of words, blanks, brackets and decimal digits. -/
theorem mem_cases (h : IsValueText cs t) {c : Char} (hc : c ∈ cs) :
    Abi.IsNameCharacter c ∨ isBlank c = true ∨ isDecimalDigit c = true ∨
      c = '[' ∨ c = ']' := by
  induction h with
  | elementary hword => exact Or.inl (hword.isNameCharacter hc)
  | array _ hblanks hdigits _ ih =>
      simp only [List.mem_append, List.mem_cons, List.not_mem_nil, or_false] at hc
      rcases hc with (hc | hc) | rfl | hc | rfl
      · exact ih hc
      · exact Or.inr (Or.inl (hblanks c hc))
      · exact Or.inr (Or.inr (Or.inr (Or.inl rfl)))
      · exact Or.inr (Or.inr (Or.inl (hdigits c hc)))
      · exact Or.inr (Or.inr (Or.inr (Or.inr rfl)))

/-! ## The reader of value types -/

/-- The text of a value type is read as that type. -/
theorem ofSpelling (h : IsValueText cs t) :
    AbiType.ofSpelling Abi.readName cs = .ok t := by
  induction h with
  | @elementary word e hword =>
      have hatomic := Abi.isAtomic_of_forall fun _ => hword.isNameCharacter
      have hend : ¬EndsInDimension (strip word) := by
        rw [hatomic.stripped]
        exact hatomic.noDimension
      rw [ofSpelling_of_not_endsInDimension _ hend, hatomic.stripped]
      exact hword.readName
  | @array front blanks digits t helement hblanks hdigits hlimit ih =>
      have hfront : AbiType.ofSpelling Abi.readName (front ++ blanks) = .ok t := by
        have hblank : strip ([] ++ front ++ blanks) = strip front :=
          strip_append_append (by simp) hblanks
        rw [← ofSpelling_strip, ← List.nil_append (front ++ blanks), ← List.append_assoc,
          hblank, ofSpelling_strip]
        exact ih
      have hsize := sizeOf?_eq_ok_iff.mpr ⟨hlimit, rfl⟩
      rw [ofSpelling_append_brackets _ _ hdigits, hfront]
      exact congrArg (Except.map t.arrayOf) hsize

end IsValueText

/-- A type name without a dimension at its end is a word. -/
theorem exists_standsFor_of_readName {text : String} {t : AbiType}
    (h : Abi.readName text = .ok t) (hlast : lastDimension? text.toList = none) :
    ∃ e, Abi.StandsFor text.toList e ∧ t = .elementary e.name := by
  obtain ⟨word, e, sizes, hword, -, htext, rfl⟩ :=
    Abi.isTypeText_iff.mp (Abi.isTypeText_of_readName h)
  rw [htext] at hlast ⊢
  cases sizes using List.reverseRecOn with
  | nil =>
      rw [List.flatMap_nil, List.append_nil]
      exact ⟨e, hword, rfl⟩
  | append_singleton sizes size =>
      rw [List.flatMap_append, List.flatMap_singleton, ← List.append_assoc,
        lastDimension?_append_dimensionSpelling] at hlast
      cases hlast

/-- What is read as a value type is the text of that type with blanks at either end. -/
theorem isValueText_of_ofSpelling {cs : List Char} {t : AbiType}
    (h : ofSpelling Abi.readName cs = .ok t) : IsValueText (strip cs) t := by
  fun_induction ofSpelling Abi.readName cs generalizing t with
  | case1 cs text =>
      rename_i hlast
      obtain ⟨e, hword, rfl⟩ := exists_standsFor_of_readName h
        (by rw [String.toList_ofList]; exact hlast)
      rw [String.toList_ofList] at hword
      exact .elementary hword
  | case2 => cases h
  | case3 cs text element digits =>
      rename_i hlast type helement ih
      obtain ⟨size, hsize, rfl⟩ := map_eq_ok_iff.mp h
      obtain ⟨hlimit, rfl⟩ := sizeOf?_eq_ok_iff.mp hsize
      obtain ⟨htext, hdigits⟩ := lastDimension?_eq_some_iff.mp hlast
      change strip cs = _ at htext
      -- The text is stripped, so blanks stand only behind its element.
      obtain ⟨blanks, hsplit, hblanks⟩ : ∃ blanks, element = strip element ++ blanks ∧
          ∀ c ∈ blanks, isBlank c = true := by
        apply @exists_eq_strip_append element ('[' :: (digits ++ [']']))
        rw [← htext, strip_strip]
      have hvalue := IsValueText.array (ih helement) hblanks hdigits hlimit
      rw [← hsplit, ← htext] at hvalue
      exact hvalue

end SolidityLayout.AbiType
