import SolidityLayout.Abi.Spelling
import SolidityLayout.Proofs.Number.Numeral
import SolidityLayout.Proofs.Text.Stripping

/-!
# Reading back the text of a value type

The reader of value types takes the dimensions off a text from the right.  What
it takes off is exactly a bracketed row of decimal digits, so a printed type
loses its dimensions one by one until the name of its innermost element is
left.  That name is handed to a reader of names that is not looked into here.
-/

namespace SolidityLayout.AbiType

open Text Number

/-! ## The last dimension of a text -/

/-- The text ends in a bracketed row of decimal digits of any script. -/
def EndsInDimension (cs : List Char) : Prop :=
  ∃ front digits, cs = front ++ '[' :: (digits ++ [']']) ∧
    ∀ d ∈ digits, isDecimalDigit d = true

/-- Taking off the last dimension finds the bracket that opens it. -/
theorem lastDimension?_eq_some_iff {cs front digits : List Char} :
    lastDimension? cs = some (front, digits) ↔
      cs = front ++ '[' :: (digits ++ [']']) ∧
        ∀ d ∈ digits, isDecimalDigit d = true := by
  constructor
  · intro h
    unfold lastDimension? at h
    split at h
    · rename_i back hback
      split at h
      · rename_i element hdrop
        simp only [Option.some.injEq, Prod.mk.injEq] at h
        obtain ⟨rfl, rfl⟩ := h
        constructor
        · have hsplit := List.takeWhile_append_dropWhile
            (p := isDecimalDigit) (l := back)
          rw [hdrop] at hsplit
          calc
            cs = cs.reverse.reverse := (List.reverse_reverse cs).symm
            _ = (']' :: (back.takeWhile isDecimalDigit ++ '[' :: element)).reverse := by
              rw [hback, hsplit]
            _ = _ := by simp
        · intro d hd
          exact List.mem_takeWhile_imp (List.mem_reverse.mp hd)
      · cases h
    · cases h
  · rintro ⟨rfl, hdigits⟩
    have hrev : (front ++ '[' :: (digits ++ [']'])).reverse =
        ']' :: (digits.reverse ++ '[' :: front.reverse) := by simp
    have hdigits' : ∀ d ∈ digits.reverse, isDecimalDigit d = true := by
      simpa using hdigits
    have hbracket : ∀ c ∈ ('[' :: front.reverse).head?,
        isDecimalDigit c = false := by
      rintro c ⟨⟩
      decide
    simp [lastDimension?, hrev, takeWhile_append_of_head? hdigits' hbracket,
      dropWhile_append_of_head? hdigits' hbracket]

theorem lastDimension?_eq_none_iff {cs : List Char} :
    lastDimension? cs = none ↔ ¬EndsInDimension cs := by
  constructor
  · rintro h ⟨front, digits, hend⟩
    rw [lastDimension?_eq_some_iff.mpr hend] at h
    cases h
  · intro h
    cases hlast : lastDimension? cs with
    | none => rfl
    | some found =>
        exact (h ⟨found.1, found.2, lastDimension?_eq_some_iff.mp hlast⟩).elim

/-- The text of a dimension: an empty pair of brackets, or a bracketed size. -/
def dimensionSpelling (size : Option Nat) : List Char :=
  '[' :: ((size.map decimalNat).getD [] ++ [']'])

theorem spelling_arrayOf (t : AbiType) (size : Option Nat) :
    (t.arrayOf size).spelling = t.spelling ++ dimensionSpelling size := by
  cases size <;> simp [arrayOf, spelling, dimensionSpelling]

theorem isDigit_of_mem_numeral {size : Option Nat} {d : Char}
    (hd : d ∈ (size.map decimalNat).getD []) : isDigit d = true := by
  cases size with
  | none => cases hd
  | some n => exact isDigit_of_mem_decimalNat hd

theorem strip_brackets (digits : List Char) :
    strip ('[' :: (digits ++ [']'])) = '[' :: (digits ++ [']']) := by
  rw [strip_eq_self_iff, ← List.cons_append, List.getLast?_concat]
  exact ⟨by simp [isBlank], by simp [isBlank]⟩

theorem strip_dimensionSpelling (size : Option Nat) :
    strip (dimensionSpelling size) = dimensionSpelling size :=
  strip_brackets _

theorem lastDimension?_append_dimensionSpelling
    (front : List Char) (size : Option Nat) :
    lastDimension? (front ++ dimensionSpelling size) =
      some (front, (size.map decimalNat).getD []) := by
  rw [lastDimension?_eq_some_iff]
  refine ⟨rfl, ?_⟩
  intro d hd
  exact isDecimalDigit_of_isDigit (isDigit_of_mem_numeral hd)

/-- The digits of a size that can be shown denote that size. -/
theorem sizeOf?_decimalNat {n : Nat} (hn : Number.isShowable n = true) :
    sizeOf? (decimalNat n) = .ok (some n) := by
  have hlength := (length_decimalNat_le_digitLimit_iff n).mpr hn
  have hne : (decimalNat n).isEmpty = false := by
    simpa using decimalNat_ne_nil n
  rw [sizeOf?, hne, if_neg (by decide), if_neg (by omega), ofDigits_decimalNat]

/-! ## Steps of the reader -/

theorem ofSpelling_strip (reader : TypeReader) (cs : List Char) :
    ofSpelling reader (strip cs) = ofSpelling reader cs := by
  rw [ofSpelling, ofSpelling.eq_def reader cs, strip_strip]

/-- Without a dimension at its end a text is a name. -/
theorem ofSpelling_of_not_endsInDimension
    (reader : TypeReader) {cs : List Char}
    (h : ¬EndsInDimension (strip cs)) :
    ofSpelling reader cs = reader (String.ofList (strip cs)) := by
  have hnone := lastDimension?_eq_none_iff.mpr h
  rw [ofSpelling]
  split
  · rfl
  · rename_i found
    rw [hnone] at found
    cases found

/-- A dimension at the end of a text is put around the type before it. -/
theorem ofSpelling_of_lastDimension?
    (reader : TypeReader) {cs front digits : List Char}
    (h : lastDimension? (strip cs) = some (front, digits)) :
    ofSpelling reader cs =
      (ofSpelling reader front).bind fun t => (sizeOf? digits).map t.arrayOf := by
  rw [ofSpelling]
  split
  · rename_i found
    rw [h] at found
    cases found
  · rename_i element digits' found
    rw [h] at found
    cases found
    cases ofSpelling reader front <;> rfl

/-- A dimension behind a text is put around the type that the text is read as. -/
theorem ofSpelling_append_brackets
    (reader : TypeReader) (front : List Char) {digits : List Char}
    (hdigits : ∀ d ∈ digits, isDecimalDigit d = true) :
    ofSpelling reader (front ++ '[' :: (digits ++ [']'])) =
      (ofSpelling reader front).bind fun t => (sizeOf? digits).map t.arrayOf := by
  have hlast : lastDimension? (strip (front ++ '[' :: (digits ++ [']']))) =
      some (front.dropWhile isBlank, digits) := by
    rw [strip_append_of_ne_nil (by simp) (strip_brackets digits), lastDimension?_eq_some_iff]
    exact ⟨rfl, hdigits⟩
  have hfront : ofSpelling reader (front.dropWhile isBlank) = ofSpelling reader front := by
    rw [← ofSpelling_strip, strip_dropWhile, ofSpelling_strip]
  rw [ofSpelling_of_lastDimension? reader hlast, hfront]

/-! ## Round trip -/

/-- The name of the innermost element of a type. -/
def baseName : AbiType → String
  | elementary name => name
  | dynamicArray element => element.baseName
  | fixedArray _ element => element.baseName

@[simp]
theorem baseName_arrayOf (t : AbiType) (size : Option Nat) :
    (t.arrayOf size).baseName = t.baseName := by
  cases size <;> rfl

theorem isShowable_arrayOf {t : AbiType} {size : Option Nat}
    (ht : t.isShowable = true)
    (hsize : ∀ n ∈ size, Number.isShowable n = true) :
    (t.arrayOf size).isShowable = true := by
  cases size with
  | none => exact ht
  | some n =>
      rw [arrayOf, isShowable, ht, hsize n rfl]
      rfl

/-- Nothing at either end of a name is taken off by the reader. -/
structure IsAtomic (name : List Char) : Prop where
  stripped : strip name = name
  noDimension : ¬EndsInDimension name

theorem strip_spelling {t : AbiType}
    (ht : strip t.baseName.toList = t.baseName.toList) :
    strip t.spelling = t.spelling := by
  induction t with
  | elementary name => exact ht
  | dynamicArray element ih =>
      have h := strip_append (ih ht) (strip_dimensionSpelling none)
      rwa [← spelling_arrayOf] at h
  | fixedArray size element ih =>
      have h := strip_append (ih ht) (strip_dimensionSpelling (some size))
      rwa [← spelling_arrayOf] at h

theorem ofSpelling_spelling_arrayOf
    (reader : TypeReader) (t : AbiType) (size : Option Nat) :
    ofSpelling reader (t.arrayOf size).spelling =
      (ofSpelling reader t.spelling).bind fun element =>
        (sizeOf? ((size.map decimalNat).getD [])).map element.arrayOf := by
  rw [spelling_arrayOf, dimensionSpelling]
  exact ofSpelling_append_brackets reader _
    fun d hd => isDecimalDigit_of_isDigit (isDigit_of_mem_numeral hd)

/-- Reading the text of a type gives the type, whatever the reader of names,
as long as it reads the innermost name as itself. -/
theorem ofSpelling_spelling
    {reader : TypeReader} {t : AbiType}
    (hread : reader t.baseName = .ok (.elementary t.baseName))
    (hatomic : IsAtomic t.baseName.toList)
    (hshow : t.isShowable = true) :
    ofSpelling reader t.spelling = .ok t := by
  induction t with
  | elementary name =>
      change IsAtomic name.toList at hatomic
      have hend : ¬EndsInDimension (strip name.toList) := by
        rw [hatomic.stripped]
        exact hatomic.noDimension
      rw [spelling, ofSpelling_of_not_endsInDimension reader hend,
        hatomic.stripped, String.ofList_toList]
      exact hread
  | dynamicArray element ih =>
      have h := ofSpelling_spelling_arrayOf reader element none
      rw [ih hread hatomic hshow] at h
      exact h
  | fixedArray size element ih =>
      rw [isShowable, Bool.and_eq_true] at hshow
      have h := ofSpelling_spelling_arrayOf reader element (some size)
      rw [ih hread hatomic hshow.1, Option.map_some, Option.getD_some,
        Except.bind, sizeOf?_decimalNat hshow.2] at h
      exact h

end SolidityLayout.AbiType
