import SolidityLayout.Proofs.Abi.Sentences
import SolidityLayout.Proofs.Abi.ShortNames

/-!
# Reading names of the catalogue

The reader of type names passes a name of the catalogue through every stage
unchanged: no short name is replaced in it, the grammar matches all of it, and
no rule is broken.  In the other direction, whatever the reader accepts has a
name of the catalogue as its innermost element, and only sizes that can be
shown.
-/

namespace SolidityLayout.Abi

open Number Text AbiType

/-! ## Short names -/

/-- No short name holds a digit. -/
theorem lookup_aliases_eq_none {name : String} {c : Char}
    (hc : c ∈ name.toList) (hdigit : isDigit c = true) :
    aliases.lookup name = none := by
  have hall : ∀ a ∈ aliases, a.1.toList.any isDigit = false := by decide
  rw [List.lookup_eq_none_iff]
  intro a ha
  rw [bne_iff_ne]
  rintro rfl
  have hnone := List.any_eq_false.mp (hall a ha) c hc
  exact hnone hdigit

theorem suffixText_eq_nil_iff {suffix? : Option Suffix} :
    suffixText suffix? = [] ↔ suffix? = none := by
  rcases suffix? with - | (bits | ⟨bits, places⟩)
  · simp [suffixText]
  · simp [suffixText, Suffix.spelling, decimalNat_ne_nil]
  · simp [suffixText, Suffix.spelling]

/-! ## Names -/

namespace Elementary

variable (e : Elementary)

theorem lookup_aliases_name : aliases.lookup e.name = none := by
  cases hhead : (suffixText e.suffix?).head? with
  | none =>
      have hnone := suffixText_eq_nil_iff.mp (List.head?_eq_none_iff.mp hhead)
      obtain ⟨base, suffix?, listed⟩ := e
      obtain rfl : suffix? = none := hnone
      cases listed <;> decide
  | some c =>
      have hc : c ∈ e.name.toList := by
        rw [toList_name]
        exact List.mem_append_right _ (List.mem_of_mem_head? hhead)
      exact lookup_aliases_eq_none hc (isDigit_head_suffixText hhead)

theorem isWordCharacter_of_mem_name {c : Char} (hc : c ∈ e.name.toList) :
    isWordCharacter c = true :=
  (e.isNameCharacter_of_mem_name hc).isWordCharacter

theorem expandWord_name : expandWord e.name.toList = e.name.toList := by
  rw [expandWord, String.ofList_toList, e.lookup_aliases_name]

theorem expandAliases_name : expandAliases e.name.toList = e.name.toList := by
  have hname := @expandFrom_append _ [] (fun _ => e.isWordCharacter_of_mem_name)
    (by simp) []
  rw [List.append_nil, List.reverse_nil, List.nil_append, e.expandWord_name] at hname
  rw [expandAliases, hname]
  exact List.append_nil _

/-! ## The stages of the reader -/

theorem unknownFirstWord?_name : unknownFirstWord? e.name.toList = none := by
  have hfirst : ∀ b ∈ catalogue, firstWords.contains b = true := by decide
  have hbase := hfirst e.base e.base_mem_catalogue
  rw [unknownFirstWord?, e.takeWhile_isLetter_name]
  split
  · rfl
  · rw [String.ofList_toList, if_pos hbase]

/-- The basic type that the grammar finds in the name. -/
def basicType : BasicType :=
  ⟨0, e.name.toList, e.base.toList, e.suffix?, []⟩

/-- The name with array dimensions behind it. -/
def spellingWith (sizes : List (Option Nat)) : List Char :=
  e.name.toList ++ sizes.flatMap dimensionSpelling

/-- The basic type that the grammar finds in the name with dimensions behind it. -/
def basicTypeWith (sizes : List (Option Nat)) : BasicType :=
  { e.basicType with written := e.spellingWith sizes, dimensions := sizes }

theorem spellingWith_eq (sizes : List (Option Nat)) :
    e.spellingWith sizes =
      e.base.toList ++ (suffixText e.suffix? ++ sizes.flatMap dimensionSpelling) := by
  rw [spellingWith, toList_name, List.append_assoc]

theorem isTuple_spellingWith (sizes : List (Option Nat)) :
    Grammar.isTuple (e.spellingWith sizes) = false := by
  rw [spellingWith_eq]
  exact Grammar.isTuple_base_append e.base_toList_ne_nil
    (isLetter_of_mem_base e.base_mem_catalogue) _

theorem match?_spellingWith
    {sizes : List (Option Nat)} (hsizes : ∀ n, some n ∈ sizes → 0 < n) :
    Grammar.match? (e.spellingWith sizes) = some ([e.basicTypeWith sizes], []) := by
  have hbasic := Grammar.basic?_append e.base_toList_ne_nil
    (isLetter_of_mem_base e.base_mem_catalogue) e.listed.isPositive hsizes
    Grammar.endsType_nil (e.spellingWith sizes).length
  simp only [← spellingWith_eq, List.append_nil, Nat.sub_self] at hbasic
  rw [Grammar.match?_of_not_isTuple (e.isTuple_spellingWith sizes), hbasic]
  rfl

theorem hasLongNumber_name : Grammar.hasLongNumber e.name.toList = false := by
  have hrun := Grammar.longestRunFrom_le 0 e.name.toList
  have hlength := e.length_name_le
  have hlimit : 14 ≤ digitLimit := by decide
  rw [Grammar.hasLongNumber, decide_eq_false_iff_not]
  omega

/-- A name is short, so that only a size behind it can be too long. -/
theorem hasLongNumber_spellingWith_eq_false_iff {sizes : List (Option Nat)} :
    Grammar.hasLongNumber (e.spellingWith sizes) = false ↔
      ∀ n, some n ∈ sizes → Number.isShowable n = true := by
  have hname := e.hasLongNumber_name
  rw [Grammar.hasLongNumber, decide_eq_false_iff_not, Nat.not_lt] at hname ⊢
  rw [spellingWith, Grammar.longestRunFrom_append_dimensions_le_iff]
  simp only [length_decimalNat_le_digitLimit_iff, hname, true_and]

theorem firstBreach?_basicTypeWith (expanded : List Char) (sizes : List (Option Nat)) :
    firstBreach? expanded [e.basicTypeWith sizes] = none := by
  obtain ⟨-, -, -, hrule⟩ := isListed_iff.mp e.listed
  simp [firstBreach?, basicTypeWith, basicType, hrule]

theorem elementOf_basicTypeWith (sizes : List (Option Nat)) :
    elementOf (e.basicTypeWith sizes) =
      .ok (sizes.foldl AbiType.arrayOf (.elementary e.name)) := by
  obtain ⟨hbase, hunsized, -, -⟩ := isListed_iff.mp e.listed
  have hsuffix : (unsizedBases.contains e.base && e.suffix?.isSome) = false := by
    rw [Bool.and_eq_false_iff]
    by_cases hmem : e.base ∈ unsizedBases
    · rw [hunsized hmem]
      exact Or.inr rfl
    · exact Or.inl (by simpa using hmem)
  have hcontains : catalogue.contains e.base = true := by simpa using hbase
  simp only [elementOf, basicTypeWith, basicType, String.ofList_toList, hcontains, hsuffix]
  rfl

/-- A text in which the short names stand for the name of an elementary type, with
dimensions behind it, is read as an array of that type in these dimensions. -/
theorem readName_of_spellingWith
    {text : String} {sizes : List (Option Nat)}
    (hfirst : unknownFirstWord? text.toList = none)
    (hexpanded : expandAliases text.toList = e.spellingWith sizes)
    (hsizes : ∀ n, some n ∈ sizes → 0 < n)
    (hlong : Grammar.hasLongNumber (e.spellingWith sizes) = false) :
    readName text = .ok (sizes.foldl AbiType.arrayOf (.elementary e.name)) := by
  rw [readName, hfirst]
  simp only [hexpanded, e.match?_spellingWith hsizes, hlong, ofMatched,
    e.firstBreach?_basicTypeWith, e.isTuple_spellingWith, e.elementOf_basicTypeWith]
  rfl

/-- A text in which the short names stand for the name of an elementary type is
read as that type. -/
theorem readName_of_expandAliases {text : String}
    (hfirst : unknownFirstWord? text.toList = none)
    (hexpanded : expandAliases text.toList = e.name.toList) :
    readName text = .ok (.elementary e.name) := by
  have hnone : e.spellingWith [] = e.name.toList := List.append_nil _
  exact @readName_of_spellingWith e text [] hfirst (hexpanded.trans hnone.symm)
    (by simp) (by rw [hnone]; exact e.hasLongNumber_name)

/-- The name of an elementary type is read as that type. -/
theorem readName_name : readName e.name = .ok (.elementary e.name) :=
  e.readName_of_expandAliases e.unknownFirstWord?_name e.expandAliases_name

end Elementary

/-! ## What is read -/

@[simp]
theorem baseName_foldl_arrayOf (sizes : List (Option Nat)) (t : AbiType) :
    (sizes.foldl AbiType.arrayOf t).baseName = t.baseName := by
  induction sizes generalizing t with
  | nil => rfl
  | cons size rest ih => rw [List.foldl_cons, ih, baseName_arrayOf]

theorem isShowable_foldl_arrayOf
    {sizes : List (Option Nat)} {t : AbiType} (ht : t.isShowable = true)
    (hsizes : ∀ n, some n ∈ sizes → Number.isShowable n = true) :
    (sizes.foldl AbiType.arrayOf t).isShowable = true := by
  induction sizes generalizing t with
  | nil => exact ht
  | cons size rest ih =>
      have hsize : ∀ n ∈ size, Number.isShowable n = true := by
        rintro n rfl
        exact hsizes n (by simp)
      exact ih (isShowable_arrayOf ht hsize) fun n hn => hsizes n (by simp [hn])

theorem elementOf_eq_ok {b : BasicType} {t : AbiType} (h : elementOf b = .ok t) :
    String.ofList b.base ∈ catalogue ∧
      (String.ofList b.base ∈ unsizedBases → b.suffix? = none) ∧
      t = b.dimensions.foldl AbiType.arrayOf
        (.elementary (String.ofList (b.base ++ suffixText b.suffix?))) := by
  simp only [elementOf] at h
  split at h
  · cases h
  · rename_i hbase
    split at h
    · cases h
    · rename_i hsuffix
      refine ⟨by simpa using hbase, ?_, ?_⟩
      · intro hmem
        have hnone : ¬b.suffix?.isSome = true := by simpa [hmem] using hsuffix
        simpa using hnone
      · exact (Except.ok.inj h).symm

theorem ofMatched_eq_ok {expanded : List Char} {parts : List BasicType} {t : AbiType}
    (h : ofMatched expanded parts = .ok t) :
    Grammar.isTuple expanded = false ∧
      ∃ b, parts = [b] ∧ brokenRule? b.base b.suffix? = none ∧
        elementOf b = .ok t := by
  unfold ofMatched at h
  split at h
  · cases h
  · rename_i b htuple hbreach
    refine ⟨htuple, b, rfl, ?_, h⟩
    simpa [firstBreach?] using hbreach
  · cases h

/-- A name is read only if it starts with a word that can start one and is, with its
short names replaced, a single basic type without long numbers. -/
theorem readName_eq_ok {text : String} {t : AbiType} (h : readName text = .ok t) :
    unknownFirstWord? text.toList = none ∧
      ∃ b, expandAliases text.toList = Grammar.basicText b ∧
        Grammar.hasLongNumber (Grammar.basicText b) = false ∧
        (∀ s ∈ b.suffix?, s.IsPositive) ∧ (∀ n, some n ∈ b.dimensions → 0 < n) ∧
        brokenRule? b.base b.suffix? = none ∧ elementOf b = .ok t := by
  simp only [readName] at h
  split at h
  · cases h
  · rename_i hfirst
    refine ⟨hfirst, ?_⟩
    split at h
    · rename_i parts hmatch
      split at h
      · cases h
      · rename_i hlong
        cases hmatched : ofMatched (expandAliases text.toList) parts with
        | error reason =>
            rw [hmatched] at h
            cases h
        | ok u =>
            rw [hmatched] at h
            obtain rfl : u = t := Except.ok.inj h
            obtain ⟨htuple, b, rfl, hrule, helement⟩ := ofMatched_eq_ok hmatched
            rw [Grammar.match?_of_not_isTuple htuple] at hmatch
            obtain ⟨⟨b', rest⟩, hbasic, hpair⟩ := Option.map_eq_some_iff.mp hmatch
            cases hpair
            obtain ⟨htext, hpos, hsizes⟩ := Grammar.basic?_sound hbasic
            rw [List.append_nil] at htext
            rw [htext, Bool.not_eq_true] at hlong
            exact ⟨b', htext, hlong, hpos, hsizes, hrule, helement⟩
    · cases h
    · cases h

/-- A name that cannot be read is an error of a layout computation, or it
matches the grammar with a number beyond the digit limit. -/
theorem readName_eq_error {text : String} {failure : Failure}
    (h : readName text = .error failure) :
    (∃ reason, failure = .layout (.unreadableType text (some reason))) ∨
      failure = .longTypeNumber ∧
        Grammar.hasLongNumber (expandAliases text.toList) = true := by
  simp only [readName] at h
  split at h
  · cases h
    exact Or.inl ⟨_, rfl⟩
  · split at h
    · split at h
      · rename_i hlong
        cases h
        exact Or.inr ⟨rfl, hlong⟩
      · rename_i parts _ _
        cases hmatched : ofMatched (expandAliases text.toList) parts with
        | error reason =>
            rw [hmatched] at h
            cases h
            exact Or.inl ⟨reason, rfl⟩
        | ok t =>
            rw [hmatched] at h
            cases h
    · cases h
      exact Or.inl ⟨_, rfl⟩
    · cases h
      exact Or.inl ⟨_, rfl⟩

/-- The failure that is no error of a layout computation occurs exactly if a known first
word starts the text and the text, with its short names replaced, is a sentence of the
grammar with a number beyond the digit limit. -/
theorem readName_eq_longTypeNumber_iff {text : String} :
    readName text = .error .longTypeNumber ↔
      unknownFirstWord? text.toList = none ∧
        Grammar.IsSentence (expandAliases text.toList) ∧
        Grammar.hasLongNumber (expandAliases text.toList) = true := by
  rw [← Grammar.exists_match?_eq_some_nil_iff]
  simp only [readName]
  constructor
  · intro h
    split at h
    · cases h
    · rename_i hfirst
      split at h
      · rename_i parts hmatch
        split at h
        · rename_i hlong
          exact ⟨hfirst, ⟨parts, hmatch⟩, hlong⟩
        · cases hmatched : ofMatched (expandAliases text.toList) parts with
          | error reason =>
              rw [hmatched] at h
              cases h
          | ok t =>
              rw [hmatched] at h
              cases h
      · cases h
      · cases h
  · rintro ⟨hfirst, ⟨parts, hmatch⟩, hlong⟩
    simp only [hfirst, hmatch, hlong, if_true]

/-- The innermost element of a type that is read is in the catalogue, and
every size of the type can be shown. -/
theorem readName_sound {text : String} {t : AbiType} (h : readName text = .ok t) :
    IsCatalogueName t.baseName ∧ t.isShowable = true := by
  obtain ⟨-, b, -, hlong, hpos, -, hrule, helement⟩ := readName_eq_ok h
  obtain ⟨hbase, hunsized, heq⟩ := elementOf_eq_ok helement
  have hlisted : IsListed (String.ofList b.base) b.suffix? := by
    rw [isListed_iff, String.toList_ofList]
    exact ⟨hbase, hunsized, hpos, hrule⟩
  rw [heq]
  constructor
  · refine ⟨⟨_, _, hlisted⟩, ?_⟩
    rw [baseName_foldl_arrayOf, Elementary.name, String.toList_ofList]
    rfl
  · exact isShowable_foldl_arrayOf rfl
      fun _ hn => Grammar.isShowable_of_not_hasLongNumber hlong hn

end SolidityLayout.Abi
