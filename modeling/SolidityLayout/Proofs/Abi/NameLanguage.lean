import SolidityLayout.Proofs.Abi.NameReading
import SolidityLayout.Proofs.Failure.Attempt

/-!
# The language of type names

The texts that stand for a type are given here by rules: a name of the catalogue or a
short name, and dimensions behind it, the innermost first.  The reader of type names
accepts these texts and no others, and whatever it does not accept it reports as a name
that cannot be read.
-/

namespace SolidityLayout.Abi

open Number Text AbiType Attempt

/-- The short names of the elementary types of the catalogue. -/
def shortNames : List (String × String) :=
  [("uint", "uint256"), ("int", "int256"), ("fixed", "fixed128x18"),
    ("ufixed", "ufixed128x18"), ("byte", "bytes1")]

/-- A word stands for an elementary type if it is its name or a short name for it. -/
inductive StandsFor : List Char → Elementary → Prop
  | name (e : Elementary) : StandsFor e.name.toList e
  | shortName {word : String} {e : Elementary} (h : (word, e.name) ∈ shortNames) :
      StandsFor word.toList e

/-- The texts of types.  A text that goes on with a dimension stands for an array whose
elements are what the text before the dimension stands for. -/
inductive IsTypeText : List Char → AbiType → Prop
  | elementary {word : List Char} {e : Elementary} (hword : StandsFor word e) :
      IsTypeText word (.elementary e.name)
  | dynamicArray {cs : List Char} {t : AbiType} (helement : IsTypeText cs t) :
      IsTypeText (cs ++ ['[', ']']) (.dynamicArray t)
  | fixedArray {cs digits : List Char} {t : AbiType} (helement : IsTypeText cs t)
      (hdigits : ∀ d ∈ digits, isDigit d = true) (hne : digits ≠ [])
      (hzero : digits.head? ≠ some '0') :
      IsTypeText (cs ++ '[' :: (digits ++ [']']))
        (.fixedArray (Nat.ofDigitChars 10 digits 0) t)

/-! ## Dimensions behind a word -/

/-- The text of a type is a word with positive dimensions behind it. -/
theorem isTypeText_iff {cs : List Char} {t : AbiType} :
    IsTypeText cs t ↔
      ∃ word e, ∃ sizes : List (Option Nat), StandsFor word e ∧
        (∀ n, some n ∈ sizes → 0 < n) ∧
        cs = word ++ sizes.flatMap dimensionSpelling ∧
        t = sizes.foldl AbiType.arrayOf (.elementary e.name) := by
  constructor
  · intro h
    induction h with
    | elementary hword =>
        exact ⟨_, _, [], hword, by simp, (List.append_nil _).symm, rfl⟩
    | dynamicArray _ ih =>
        obtain ⟨word, e, sizes, hword, hpos, rfl, rfl⟩ := ih
        refine ⟨word, e, sizes ++ [none], hword, by simpa using hpos, ?_, ?_⟩
        · simp [dimensionSpelling]
        · simp [AbiType.arrayOf]
    | @fixedArray _ digits _ _ hdigits hne hzero ih =>
        obtain ⟨word, e, sizes, hword, hpos, rfl, rfl⟩ := ih
        cases digits with
        | nil => exact (hne rfl).elim
        | cons d tail =>
            have htail : ∀ d' ∈ tail, isDigit d' = true :=
              fun d' hd' => hdigits d' (by simp [hd'])
            obtain ⟨hsize, hnumeral⟩ := decimalNat_ofDigitChars (hdigits d (by simp))
              (by simpa using hzero) htail
            refine ⟨word, e, sizes ++ [some (Nat.ofDigitChars 10 (d :: tail) 0)], hword,
              ?_, ?_, ?_⟩
            · intro n hn
              rcases List.mem_append.mp hn with hn | hn
              · exact hpos n hn
              · obtain rfl := Option.some.inj (List.mem_singleton.mp hn)
                exact hsize
            · simp [dimensionSpelling, hnumeral]
            · simp [AbiType.arrayOf]
  · rintro ⟨word, e, sizes, hword, hpos, rfl, rfl⟩
    induction sizes using List.reverseRecOn with
    | nil =>
        rw [List.flatMap_nil, List.append_nil]
        exact .elementary hword
    | append_singleton sizes size ih =>
        have helement := ih fun n hn => hpos n (by simp [hn])
        rw [List.flatMap_append, List.flatMap_singleton, ← List.append_assoc,
          List.foldl_append]
        cases size with
        | none => exact .dynamicArray helement
        | some n =>
            have hn : 0 < n := hpos n (by simp)
            have harray := IsTypeText.fixedArray helement
              (fun d hd => isDigit_of_mem_decimalNat hd) (decimalNat_ne_nil n)
              (head?_decimalNat_ne_zero hn)
            rwa [ofDigitChars_decimalNat] at harray

/-! ## The first word -/

/-- The word at the start of a text is known if there is none or if it can start a type
name. -/
theorem unknownFirstWord?_append_eq_none_iff
    {word rest : List Char} (hword : ∀ c ∈ word, isLetter c = true)
    (hrest : ∀ c ∈ rest.head?, isLetter c = false) :
    unknownFirstWord? (word ++ rest) = none ↔
      word = [] ∨ String.ofList word ∈ firstWords := by
  rw [unknownFirstWord?, takeWhile_append_of_head? hword hrest]
  cases word with
  | nil => simp
  | cons c tail => simp

theorem isLetter_of_mem_firstWords {word : String} (hword : word ∈ firstWords) :
    ∀ c ∈ word.toList, isLetter c = true := by
  have hall : ∀ w ∈ firstWords, w.toList.all isLetter = true := by decide
  exact List.all_eq_true.mp (hall word hword)

namespace StandsFor

variable {word : List Char} {e : Elementary}

/-- A word that stands for a type can start a type name, apart from its suffix. -/
theorem exists_firstWord (h : StandsFor word e) :
    ∃ base ∈ firstWords, ∃ suffix?, word = base.toList ++ suffixText suffix? := by
  cases h with
  | name =>
      refine ⟨e.base, List.mem_append_left _ e.base_mem_catalogue, e.suffix?, ?_⟩
      exact e.toList_name
  | shortName h =>
      rename_i short
      have hall : ∀ a ∈ shortNames, a.1 ∈ firstWords := by decide
      exact ⟨short, hall _ h, none, by simp [suffixText]⟩

theorem expandWord_eq (h : StandsFor word e) : expandWord word = e.name.toList := by
  cases h with
  | name => exact e.expandWord_name
  | shortName h =>
      have hall : ∀ a ∈ shortNames, aliases.lookup a.1 = some a.2 := by decide
      rw [expandWord, String.ofList_toList, hall _ h]

theorem isNameCharacter (h : StandsFor word e) {c : Char} (hc : c ∈ word) :
    IsNameCharacter c := by
  obtain ⟨base, hbase, suffix?, rfl⟩ := h.exists_firstWord
  rcases List.mem_append.mp hc with hc | hc
  · exact Or.inl (isLetter_of_mem_firstWords hbase c hc)
  · exact isNameCharacter_of_mem_suffixText hc

theorem ne_nil (h : StandsFor word e) : word ≠ [] := by
  obtain ⟨base, hbase, suffix?, rfl⟩ := h.exists_firstWord
  have hall : ∀ w ∈ firstWords, w.toList ≠ [] := by decide
  exact List.append_ne_nil_of_left_ne_nil (hall base hbase) _

end StandsFor

/-- Dimensions hold brackets and digits. -/
theorem hasNoLetter_flatMap_dimensionSpelling (sizes : List (Option Nat)) :
    HasNoLetter (sizes.flatMap dimensionSpelling) := by
  intro c hc
  obtain ⟨size, -, hc⟩ := List.mem_flatMap.mp hc
  rw [dimensionSpelling, List.mem_cons, List.mem_append, List.mem_singleton] at hc
  rcases hc with rfl | hc | rfl
  · decide
  · cases size with
    | none => cases hc
    | some n => exact isLetter_eq_false_of_isDigit (isDigit_of_mem_decimalNat hc)
  · decide

theorem isWordCharacter_head?_flatMap_dimensionSpelling (sizes : List (Option Nat)) :
    ∀ c ∈ (sizes.flatMap dimensionSpelling).head?, isWordCharacter c = false := by
  intro c hc
  rw [Grammar.head?_flatMap_dimensionSpelling hc]
  decide

/-! ## Texts of types are read -/

namespace StandsFor

variable {word : List Char} {e : Elementary}

theorem unknownFirstWord?_append (h : StandsFor word e) (sizes : List (Option Nat)) :
    unknownFirstWord? (word ++ sizes.flatMap dimensionSpelling) = none := by
  obtain ⟨base, hbase, suffix?, rfl⟩ := h.exists_firstWord
  rw [List.append_assoc,
    unknownFirstWord?_append_eq_none_iff (isLetter_of_mem_firstWords hbase)
      (Grammar.isLetter_head?_suffixText_append suffix? sizes), String.ofList_toList]
  exact Or.inr hbase

/-- Only the word is replaced: dimensions hold no short name. -/
theorem expandAliases_append (h : StandsFor word e) (sizes : List (Option Nat)) :
    expandAliases (word ++ sizes.flatMap dimensionSpelling) = e.spellingWith sizes := by
  have hkept : expandFrom [] (sizes.flatMap dimensionSpelling) =
      sizes.flatMap dimensionSpelling :=
    @expandFrom_of_hasNoLetter [] _
      (Or.inl (hasNoLetter_flatMap_dimensionSpelling sizes))
  rw [expandAliases, expandFrom_append (fun c hc => (h.isNameCharacter hc).isWordCharacter)
    (isWordCharacter_head?_flatMap_dimensionSpelling sizes), hkept, List.reverse_nil,
    List.nil_append, h.expandWord_eq]
  rfl

/-- A word that stands for a type is read as that type. -/
theorem readName (h : StandsFor word e) :
    readName (String.ofList word) = .ok (.elementary e.name) := by
  have hfirst := h.unknownFirstWord?_append []
  have hexpanded := h.expandAliases_append []
  rw [List.flatMap_nil, List.append_nil] at hfirst hexpanded
  apply e.readName_of_expandAliases
  · rw [String.toList_ofList]
    exact hfirst
  · rw [String.toList_ofList, hexpanded]
    exact List.append_nil _

end StandsFor

/-! ## Only texts of types are read -/

/-- A word whose full form is a name of the catalogue stands for that type, unless it is
a short name that starts no type name. -/
theorem standsFor_of_expandWord
    {word : List Char} {e : Elementary} (hexpanded : expandWord word = e.name.toList)
    (hfirst : String.ofList word ≠ "function") : StandsFor word e := by
  rcases expandWord_cases word with hkept | ⟨name, hmem, hname⟩
  · rw [← hkept, hexpanded]
    exact .name e
  · have hall : ∀ a ∈ aliases, a.1 ≠ "function" → a ∈ shortNames := by decide
    obtain rfl : name = e.name := String.toList_injective (hname.symm.trans hexpanded)
    have hshort := StandsFor.shortName (hall _ hmem hfirst)
    rwa [String.toList_ofList] at hshort

/-- What is read is the text of a type. -/
theorem isTypeText_of_readName {text : String} {t : AbiType} (h : readName text = .ok t) :
    IsTypeText text.toList t := by
  obtain ⟨hfirst, b, hexpanded, -, hpos, hsizes, hrule, helement⟩ := readName_eq_ok h
  obtain ⟨hbase, hunsized, rfl⟩ := elementOf_eq_ok helement
  have hlisted : IsListed (String.ofList b.base) b.suffix? := by
    rw [isListed_iff, String.toList_ofList]
    exact ⟨hbase, hunsized, hpos, hrule⟩
  obtain ⟨e, he⟩ : ∃ e : Elementary, e.name = String.ofList (b.base ++ suffixText b.suffix?) :=
    ⟨⟨_, _, hlisted⟩, by rw [Elementary.name, String.toList_ofList]⟩
  have hname : Grammar.basicText b =
      e.name.toList ++ b.dimensions.flatMap dimensionSpelling := by
    rw [he, String.toList_ofList]
    rfl
  obtain ⟨word, hsplit, hword⟩ := exists_expandWord_of_expandAliases_eq
    (fun _ => e.isWordCharacter_of_mem_name)
    (hasNoLetter_flatMap_dimensionSpelling b.dimensions)
    (isWordCharacter_head?_flatMap_dimensionSpelling b.dimensions)
    (hexpanded.trans hname)
  have hfunction : String.ofList word ≠ "function" := by
    intro hfunction
    obtain rfl : word = "function".toList := by rw [← hfunction, String.toList_ofList]
    have hletters : ∀ c ∈ "function".toList, isLetter c = true := List.all_eq_true.mp rfl
    rw [hsplit, unknownFirstWord?_append_eq_none_iff hletters fun c hc =>
      hasNoLetter_flatMap_dimensionSpelling _ c (List.mem_of_mem_head? hc)] at hfirst
    exact absurd hfirst (by decide)
  rw [← he]
  exact isTypeText_iff.mpr
    ⟨word, e, b.dimensions, standsFor_of_expandWord hword hfunction, hsizes, hsplit, rfl⟩

/-! ## Long sizes -/

/-- The text is a word with dimensions behind it, of sizes that are positive and not too
long, and the type is the array in these dimensions. -/
def IsReadable (cs : List Char) (t : AbiType) : Prop :=
  ∃ word e, ∃ sizes : List (Option Nat), StandsFor word e ∧
    (∀ n, some n ∈ sizes → 0 < n ∧ Number.isShowable n = true) ∧
    cs = word ++ sizes.flatMap dimensionSpelling ∧
    t = sizes.foldl AbiType.arrayOf (.elementary e.name)

/-- Whatever numbers stand in a text, it is read exactly if it is the text of a type and
no size in it is too long. -/
theorem readName_eq_ok_iff {text : String} {t : AbiType} :
    readName text = .ok t ↔ IsReadable text.toList t := by
  constructor
  · intro h
    obtain ⟨-, b, hexpanded, hlong, -⟩ := readName_eq_ok h
    obtain ⟨word, e, sizes, hword, hpos, htext, ht⟩ :=
      isTypeText_iff.mp (isTypeText_of_readName h)
    rw [← hexpanded, htext, hword.expandAliases_append,
      e.hasLongNumber_spellingWith_eq_false_iff] at hlong
    exact ⟨word, e, sizes, hword, fun n hn => ⟨hpos n hn, hlong n hn⟩, htext, ht⟩
  · rintro ⟨word, e, sizes, hword, hsizes, htext, rfl⟩
    apply e.readName_of_spellingWith
    · rw [htext]
      exact hword.unknownFirstWord?_append sizes
    · rw [htext]
      exact hword.expandAliases_append sizes
    · exact fun n hn => (hsizes n hn).1
    · exact e.hasLongNumber_spellingWith_eq_false_iff.mpr fun n hn => (hsizes n hn).2

/-! ## The language that is read -/

/-- A text whose numbers are not too long is read as a type exactly if it is the text of
that type, and every other such text is reported as a name that cannot be read. -/
theorem readName_outcome
    {text : String}
    (hruns : ∀ digits, digits <:+: text.toList → (∀ d ∈ digits, isDigit d = true) →
      digits.length ≤ digitLimit) :
    (∀ t, readName text = .ok t ↔ IsTypeText text.toList t) ∧
      ((¬∃ t, IsTypeText text.toList t) ↔
        ∃ reason, readName text = .error (.layout (.unreadableType text (some reason)))) := by
  have hshort := hasLongNumber_expandAliases (Grammar.hasLongNumber_eq_false_iff.mpr hruns)
  have hread : ∀ t, readName text = .ok t ↔ IsTypeText text.toList t := by
    intro t
    constructor
    · exact isTypeText_of_readName
    · intro ht
      obtain ⟨word, e, sizes, hword, hsizes, htext, rfl⟩ := isTypeText_iff.mp ht
      rw [htext, hword.expandAliases_append] at hshort
      apply e.readName_of_spellingWith _ _ hsizes hshort
      · rw [htext]
        exact hword.unknownFirstWord?_append sizes
      · rw [htext]
        exact hword.expandAliases_append sizes
  refine ⟨hread, (not_exists_iff_exists_error hread).trans ?_⟩
  constructor
  · rintro ⟨failure, houtcome⟩
    rcases readName_eq_error houtcome with ⟨reason, rfl⟩ | ⟨-, hlong⟩
    · exact ⟨reason, houtcome⟩
    · rw [hshort] at hlong
      cases hlong
  · rintro ⟨reason, herror⟩
    exact ⟨_, herror⟩

theorem readName_outcome_byteArray :
    readName "byte[12][]" =
      .ok (.dynamicArray (.fixedArray 12 (.elementary "bytes1"))) := by
  let bytes1 : Elementary := ⟨"bytes", some (.size 1), .sizedBytes (by decide) (by decide)⟩
  have hname : bytes1.name = "bytes1" := by decide +kernel
  have hbyte : StandsFor "byte".toList bytes1 := .shortName (by rw [hname]; decide)
  have hlength : "byte[12][]".toList.length ≤ digitLimit := by decide
  have houtcome := @readName_outcome "byte[12][]"
    fun digits hdigits _ => Nat.le_trans hdigits.length_le hlength
  have htext := IsTypeText.dynamicArray (@IsTypeText.fixedArray _ ['1', '2'] _
    (.elementary hbyte) (List.all_eq_true.mp rfl) (by decide) (by decide))
  rw [hname] at htext
  exact (houtcome.1 _).mpr htext

end SolidityLayout.Abi
