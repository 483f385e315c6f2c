import SolidityLayout.Proofs.Abi.ValueLanguage

/-!
# Two readers of array types

An array type is read in two ways.  The reader of type names takes its dimensions from
the left, after the short names have been replaced in the whole text, and the reader of
value types takes them from the right and hands only the word in front to the other
reader.  The two agree: a type name is a value type without blanks whose sizes are
written in plain digits, and it stands for the same type.
-/

namespace SolidityLayout.AbiType

open Text Number

/-! ## Plain sizes -/

/-- Every row of decimal digits between two brackets is empty or a row of ASCII digits
that does not start with a zero. -/
def HasPlainSizes (cs : List Char) : Prop :=
  ∀ front digits back, cs = front ++ '[' :: (digits ++ ']' :: back) →
    (∀ d ∈ digits, isDecimalDigit d = true) →
    (∀ d ∈ digits, isDigit d = true) ∧ digits.head? ≠ some '0'

/-- A character that is not in the front of a text stands in the rest of it. -/
theorem exists_eq_append_of_not_mem
    {c : Char} {front back left right : List Char}
    (hc : c ∉ front) (h : front ++ back = left ++ c :: right) :
    ∃ middle, left = front ++ middle ∧ back = middle ++ c :: right := by
  rcases List.append_eq_append_iff.mp h with ⟨middle, hleft, hback⟩ | ⟨middle, rfl, hright⟩
  · exact ⟨middle, hleft, hback⟩
  · cases middle with
    | nil => exact ⟨[], by simp, hright.symm⟩
    | cons d rest =>
        obtain rfl := (List.cons.inj hright).1
        simp at hc

namespace HasPlainSizes

variable {front back cs : List Char}

theorem of_append (h : HasPlainSizes (front ++ back)) : HasPlainSizes front := by
  rintro left digits right rfl hdigits
  exact h left digits (right ++ back) (by simp) hdigits

/-- No size is added by a text in front that opens no bracket. -/
theorem append_left (hfront : '[' ∉ front) (h : HasPlainSizes back) :
    HasPlainSizes (front ++ back) := by
  intro left digits right heq hdigits
  obtain ⟨middle, -, hback⟩ := exists_eq_append_of_not_mem hfront heq
  exact h middle digits right hback hdigits

theorem dimensionSpelling_append
    {size : Option Nat} (hsize : ∀ n ∈ size, 0 < n) (h : HasPlainSizes cs) :
    HasPlainSizes (dimensionSpelling size ++ cs) := by
  let numeral := (size.map decimalNat).getD []
  have hnumeral : ∀ d ∈ numeral, isDigit d = true := fun d => isDigit_of_mem_numeral
  have hclose (rest : List Char) : ∀ c ∈ (']' :: rest).head?, isDecimalDigit c = false := by
    rintro c ⟨⟩
    decide
  have htext : dimensionSpelling size ++ cs = '[' :: (numeral ++ ']' :: cs) := by
    simp [dimensionSpelling, numeral]
  intro left digits right heq hdigits
  rw [htext] at heq
  cases left with
  | nil =>
      -- The row stands between the brackets of the dimension itself.
      have hsame : digits = numeral := by
        rw [← takeWhile_append_of_head? hdigits (hclose right), ← (List.cons.inj heq).2]
        exact takeWhile_append_of_head?
          (fun d hd => isDecimalDigit_of_isDigit (hnumeral d hd)) (hclose cs)
      rw [hsame]
      refine ⟨hnumeral, ?_⟩
      cases size with
      | none => simp [numeral]
      | some n => exact head?_decimalNat_ne_zero (hsize n rfl)
  | cons c left =>
      have hinner : '[' ∉ numeral ++ [']'] := by
        intro hmem
        rcases List.mem_append.mp hmem with hmem | hmem
        · exact absurd (hnumeral _ hmem) (by decide)
        · exact absurd hmem (by decide)
      have hrest : (numeral ++ [']']) ++ cs = left ++ '[' :: (digits ++ ']' :: right) := by
        simpa using (List.cons.inj heq).2
      obtain ⟨later, -, hlater⟩ := exists_eq_append_of_not_mem hinner hrest
      exact h later digits right hlater hdigits

end HasPlainSizes

theorem hasPlainSizes_flatMap {sizes : List (Option Nat)}
    (hsizes : ∀ n, some n ∈ sizes → 0 < n) :
    HasPlainSizes (sizes.flatMap dimensionSpelling) := by
  induction sizes with
  | nil =>
      intro left digits right heq
      simp at heq
  | cons size rest ih =>
      have hrest := ih fun n hn => hsizes n (by simp [hn])
      apply hrest.dimensionSpelling_append
      rintro n rfl
      exact hsizes n (by simp)

/-! ## Sizes of both kinds -/

theorem denotedSize?_numeral (size : Option Nat) :
    denotedSize? ((size.map decimalNat).getD []) = size := by
  cases size with
  | none => rfl
  | some n =>
      rw [Option.map_some, Option.getD_some, denotedSize?, if_neg (decimalNat_ne_nil n),
        ofDigits_decimalNat]

/-- A plain row of digits within the limit is the numeral of a size, unless it is
empty. -/
theorem exists_eq_numeral
    {digits : List Char} (hdigits : ∀ d ∈ digits, isDigit d = true)
    (hzero : digits.head? ≠ some '0') (hlimit : digits.length ≤ digitLimit) :
    ∃ size : Option Nat, digits = (size.map decimalNat).getD [] ∧
      ∀ n ∈ size, 0 < n ∧ Number.isShowable n = true := by
  cases digits with
  | nil => exact ⟨none, rfl, by simp⟩
  | cons d rest =>
      have hrest : ∀ e ∈ rest, isDigit e = true := fun e he => hdigits e (by simp [he])
      obtain ⟨hpos, hnumeral⟩ := decimalNat_ofDigitChars (hdigits d (by simp))
        (by simpa using hzero) hrest
      refine ⟨some (Nat.ofDigitChars 10 (d :: rest) 0), hnumeral.symm, ?_⟩
      rintro n ⟨⟩
      refine ⟨hpos, ?_⟩
      rwa [← length_decimalNat_le_digitLimit_iff, hnumeral]

/-! ## From type names to value types -/

/-- A value type goes on with the dimensions of a type name. -/
theorem IsValueText.append_flatMap
    {cs : List Char} {t : AbiType} (h : IsValueText cs t) {sizes : List (Option Nat)}
    (hsizes : ∀ n, some n ∈ sizes → Number.isShowable n = true) :
    IsValueText (cs ++ sizes.flatMap dimensionSpelling) (sizes.foldl arrayOf t) := by
  induction sizes generalizing cs t with
  | nil => simpa using h
  | cons size rest ih =>
      have hdigits : ∀ d ∈ (size.map decimalNat).getD [], isDecimalDigit d = true :=
        fun d hd => isDecimalDigit_of_isDigit (isDigit_of_mem_numeral hd)
      have hlimit : ((size.map decimalNat).getD []).length ≤ digitLimit := by
        cases size with
        | none => exact Nat.zero_le _
        | some n => exact (length_decimalNat_le_digitLimit_iff n).mpr (hsizes n (by simp))
      have harray := @IsValueText.array _ [] _ _ h (by simp) hdigits hlimit
      rw [denotedSize?_numeral, List.append_nil] at harray
      have hrest := ih harray fun n hn => hsizes n (by simp [hn])
      rwa [List.append_assoc] at hrest

theorem isBlank_eq_false_of_mem_dimensions {sizes : List (Option Nat)} {c : Char}
    (hc : c ∈ sizes.flatMap dimensionSpelling) : isBlank c = false := by
  obtain ⟨size, -, hc⟩ := List.mem_flatMap.mp hc
  rw [dimensionSpelling, List.mem_cons, List.mem_append, List.mem_singleton] at hc
  rcases hc with rfl | hc | rfl
  · decide
  · exact Abi.IsNameCharacter.isBlank_eq_false (Or.inr (isDigit_of_mem_numeral hc))
  · decide

/-- What is read as a type name is a value type in plain writing. -/
theorem isPlain_of_isReadable {cs : List Char} {t : AbiType} (h : Abi.IsReadable cs t) :
    IsValueText cs t ∧ (∀ c ∈ cs, isBlank c = false) ∧ HasPlainSizes cs := by
  obtain ⟨word, e, sizes, hword, hsizes, rfl, rfl⟩ := h
  refine ⟨(IsValueText.elementary hword).append_flatMap fun n hn => (hsizes n hn).2, ?_, ?_⟩
  · intro c hc
    rcases List.mem_append.mp hc with hc | hc
    · exact (hword.isNameCharacter hc).isBlank_eq_false
    · exact isBlank_eq_false_of_mem_dimensions hc
  · have hbracket : '[' ∉ word := fun hc => absurd (hword.isNameCharacter hc) (by decide)
    exact (hasPlainSizes_flatMap fun n hn => (hsizes n hn).1).append_left hbracket

/-! ## From value types to type names -/

/-- A value type in plain writing is read as a type name, by induction from the word
outwards. -/
theorem IsValueText.isReadable
    {cs : List Char} {t : AbiType} (h : IsValueText cs t)
    (hblank : ∀ c ∈ cs, isBlank c = false) (hplain : HasPlainSizes cs) :
    Abi.IsReadable cs t := by
  induction h with
  | elementary hword => exact ⟨_, _, [], hword, by simp, by simp, rfl⟩
  | @array front blanks digits _ _ hblanks hdigits hlimit ih =>
      obtain rfl : blanks = [] := by
        cases blanks with
        | nil => rfl
        | cons c rest =>
            have hno := hblank c (by simp)
            rw [hblanks c (by simp)] at hno
            cases hno
      rw [List.append_nil] at hblank hplain ⊢
      obtain ⟨word, e, sizes, hword, hsizes, rfl, rfl⟩ :=
        ih (fun c hc => hblank c (by simp [hc])) hplain.of_append
      obtain ⟨hascii, hzero⟩ := hplain _ digits [] rfl hdigits
      obtain ⟨size, rfl, hsize⟩ := exists_eq_numeral hascii hzero hlimit
      refine ⟨word, e, sizes ++ [size], hword, ?_, ?_, ?_⟩
      · intro n hn
        rcases List.mem_append.mp hn with hn | hn
        · exact hsizes n hn
        · exact hsize n (List.mem_singleton.mp hn).symm
      · simp [dimensionSpelling]
      · simp [denotedSize?_numeral]

/-! ## Agreement -/

/-- The reader of type names reads a text as a type exactly if the reader of value types
reads it as the same type, there is no blank in it and its sizes are plain. -/
theorem readName_eq_ok_iff_ofSpelling (text : String) (t : AbiType) :
    Abi.readName text = .ok t ↔
      ofSpelling Abi.readName text.toList = .ok t ∧
        (∀ c ∈ text.toList, isBlank c = false) ∧ HasPlainSizes text.toList := by
  rw [Abi.readName_eq_ok_iff]
  constructor
  · intro h
    obtain ⟨hvalue, hblank, hplain⟩ := isPlain_of_isReadable h
    exact ⟨hvalue.ofSpelling, hblank, hplain⟩
  · rintro ⟨h, hblank, hplain⟩
    have hvalue := isValueText_of_ofSpelling h
    have hstrip : strip text.toList = text.toList := trim_eq_self_of_forall hblank
    rw [hstrip] at hvalue
    exact hvalue.isReadable hblank hplain

theorem readName_eq_ok_iff_ofSpelling_ufixed :
    (ofSpelling Abi.readName "ufixed[3][]".toList =
        .ok (.dynamicArray (.fixedArray 3 (.elementary "ufixed128x18"))) ∧
      (∀ c ∈ "ufixed[3][]".toList, isBlank c = false) ∧
        HasPlainSizes "ufixed[3][]".toList) ∧
      Abi.readName "ufixed[3][]" =
        .ok (.dynamicArray (.fixedArray 3 (.elementary "ufixed128x18"))) := by
  let ufixed : Abi.Elementary := ⟨"ufixed", some (.pair 128 18),
    .decimal (Or.inr rfl) (by decide) (by decide) (by decide) (by decide) (by decide)⟩
  have hname : ufixed.name = "ufixed128x18" := by decide +kernel
  have hword : Abi.StandsFor "ufixed".toList ufixed := .shortName (by rw [hname]; decide)
  have hsizes : ∀ n : Nat, some n ∈ [some 3, none] → Number.isShowable n = true := by
    intro n hn
    obtain rfl : n = 3 := by simpa using hn
    decide +kernel
  have htext := (IsValueText.elementary hword).append_flatMap hsizes
  have hread : ofSpelling Abi.readName "ufixed[3][]".toList =
      .ok (.dynamicArray (.fixedArray 3 (.elementary "ufixed128x18"))) := by
    rw [hname] at htext
    exact htext.ofSpelling
  have hblank : ∀ c ∈ "ufixed[3][]".toList, isBlank c = false := by
    have hall : "ufixed[3][]".toList.all (!isBlank ·) = true := by decide
    simpa only [List.all_eq_true, Bool.not_eq_true'] using hall
  have hplain : HasPlainSizes "ufixed[3][]".toList := by
    have hdimensions := @hasPlainSizes_flatMap [some 3, none] (by simp)
    have hbracket : '[' ∉ "ufixed".toList := by decide
    exact hdimensions.append_left hbracket
  exact ⟨⟨hread, hblank, hplain⟩,
    (readName_eq_ok_iff_ofSpelling _ _).mpr ⟨hread, hblank, hplain⟩⟩

end SolidityLayout.AbiType
