import SolidityLayout.Abi.Name
import SolidityLayout.Proofs.Abi.GrammarSpelling

/-!
# The catalogue of elementary types

An elementary type of the catalogue is a base with a suffix in the range that
the base allows.  Its name is read as the type itself, and the innermost
element of every type that the reader of names yields is in the catalogue.
The names of the catalogue are therefore exactly the ones that stand for
themselves, and they hold no character that structures a longer text.
-/

namespace SolidityLayout.Abi

open Number Text AbiType

/-- The bases of the catalogue with the suffixes that they take. -/
inductive IsListed : String → Option Suffix → Prop
  | address : IsListed "address" none
  | bool : IsListed "bool" none
  | string : IsListed "string" none
  | bytes : IsListed "bytes" none
  | sizedBytes {count : Nat} (low : 1 ≤ count) (high : count ≤ 32) :
      IsListed "bytes" (some (.size count))
  | integer {base : String} {bits : Nat} (hbase : base = "int" ∨ base = "uint")
      (low : 8 ≤ bits) (high : bits ≤ 256) (octets : 8 ∣ bits) :
      IsListed base (some (.size bits))
  | decimal {base : String} {bits places : Nat}
      (hbase : base = "fixed" ∨ base = "ufixed")
      (low : 8 ≤ bits) (high : bits ≤ 256) (octets : 8 ∣ bits)
      (lowPlaces : 1 ≤ places) (highPlaces : places ≤ 80) :
      IsListed base (some (.pair bits places))

/-- An elementary type of the catalogue. -/
structure Elementary where
  base : String
  suffix? : Option Suffix
  listed : IsListed base suffix?

/-- The name of an elementary type. -/
def Elementary.name (e : Elementary) : String :=
  String.ofList (e.base.toList ++ suffixText e.suffix?)

/-- The name of some elementary type of the catalogue. -/
def IsCatalogueName (name : String) : Prop :=
  ∃ e : Elementary, e.name = name

/-! ## The rules -/

theorem brokenByBytes?_eq_none_iff {suffix? : Option Suffix} :
    brokenByBytes? suffix? = none ↔
      suffix? = none ∨ ∃ count, suffix? = some (.size count) ∧ count ≤ 32 := by
  rcases suffix? with - | (count | ⟨bits, places⟩) <;> simp [brokenByBytes?]

theorem brokenByInteger?_eq_none_iff {suffix? : Option Suffix} :
    brokenByInteger? suffix? = none ↔
      ∃ bits, suffix? = some (.size bits) ∧
        8 ≤ bits ∧ bits ≤ 256 ∧ 8 ∣ bits := by
  rcases suffix? with - | (bits | ⟨bits, places⟩)
  · simp [brokenByInteger?]
  · rw [brokenByInteger?]
    split
    · simp
      omega
    · split
      · simp
        omega
      · simp
        omega
  · simp [brokenByInteger?]

theorem brokenByDecimal?_eq_none_iff {suffix? : Option Suffix} :
    brokenByDecimal? suffix? = none ↔
      ∃ bits places, suffix? = some (.pair bits places) ∧
        (8 ≤ bits ∧ bits ≤ 256 ∧ 8 ∣ bits) ∧ 1 ≤ places ∧ places ≤ 80 := by
  rcases suffix? with - | (bits | ⟨bits, places⟩)
  · simp [brokenByDecimal?]
  · simp [brokenByDecimal?]
  · rw [brokenByDecimal?]
    split
    · simp
      omega
    · split
      · simp
        omega
      · split
        · simp
          omega
        · simp
          omega

theorem IsListed.isPositive {base : String} {suffix? : Option Suffix}
    (h : IsListed base suffix?) : ∀ s ∈ suffix?, s.IsPositive := by
  intro s hs
  cases h with
  | sizedBytes low =>
      cases hs
      exact low
  | integer _ low =>
      cases hs
      exact Nat.lt_of_lt_of_le (by decide) low
  | decimal _ low _ _ lowPlaces =>
      cases hs
      exact ⟨Nat.lt_of_lt_of_le (by decide) low, lowPlaces⟩
  | _ => cases hs

/-- The catalogue lists a base with exactly the suffixes that break no rule,
if the base takes a suffix at all. -/
theorem isListed_iff {base : String} {suffix? : Option Suffix} :
    IsListed base suffix? ↔
      base ∈ catalogue ∧ (base ∈ unsizedBases → suffix? = none) ∧
        (∀ s ∈ suffix?, s.IsPositive) ∧
        brokenRule? base.toList suffix? = none := by
  constructor
  · intro h
    have hpos := h.isPositive
    cases h with
    | sizedBytes low high =>
        have hrule := brokenByBytes?_eq_none_iff.mpr (Or.inr ⟨_, rfl, high⟩)
        exact ⟨by decide, fun hb => absurd hb (by decide), hpos, hrule⟩
    | integer hbase low high octets =>
        have hrule := brokenByInteger?_eq_none_iff.mpr ⟨_, rfl, low, high, octets⟩
        rcases hbase with rfl | rfl
        · exact ⟨by decide, fun hb => absurd hb (by decide), hpos, hrule⟩
        · exact ⟨by decide, fun hb => absurd hb (by decide), hpos, hrule⟩
    | decimal hbase low high octets lowPlaces highPlaces =>
        have hrule := brokenByDecimal?_eq_none_iff.mpr
          ⟨_, _, rfl, ⟨low, high, octets⟩, lowPlaces, highPlaces⟩
        rcases hbase with rfl | rfl
        · exact ⟨by decide, fun hb => absurd hb (by decide), hpos, hrule⟩
        · exact ⟨by decide, fun hb => absurd hb (by decide), hpos, hrule⟩
    | _ => exact ⟨by decide, fun _ => rfl, hpos, rfl⟩
  · rintro ⟨hbase, hunsized, hpos, hrule⟩
    simp only [catalogue, List.mem_cons, List.not_mem_nil, or_false] at hbase
    rcases hbase with rfl | rfl | rfl | rfl | rfl | rfl | rfl | rfl
    · obtain ⟨bits, rfl, low, high, octets⟩ := brokenByInteger?_eq_none_iff.mp hrule
      exact .integer (Or.inr rfl) low high octets
    · obtain ⟨bits, rfl, low, high, octets⟩ := brokenByInteger?_eq_none_iff.mp hrule
      exact .integer (Or.inl rfl) low high octets
    · obtain rfl := hunsized (by decide)
      exact .address
    · obtain rfl := hunsized (by decide)
      exact .bool
    · rcases brokenByBytes?_eq_none_iff.mp hrule with rfl | ⟨count, rfl, high⟩
      · exact .bytes
      · exact .sizedBytes (hpos _ rfl) high
    · obtain rfl := hunsized (by decide)
      exact .string
    · obtain ⟨bits, places, rfl, ⟨low, high, octets⟩, lowPlaces, highPlaces⟩ :=
        brokenByDecimal?_eq_none_iff.mp hrule
      exact .decimal (Or.inl rfl) low high octets lowPlaces highPlaces
    · obtain ⟨bits, places, rfl, ⟨low, high, octets⟩, lowPlaces, highPlaces⟩ :=
        brokenByDecimal?_eq_none_iff.mp hrule
      exact .decimal (Or.inr rfl) low high octets lowPlaces highPlaces

/-! ## Characters of a name -/

theorem toNat_of_isLetter {c : Char} (hc : isLetter c = true) :
    97 ≤ c.toNat ∧ c.toNat ≤ 122 ∨ 65 ≤ c.toNat ∧ c.toNat ≤ 90 := by
  simp only [isLetter, Bool.or_eq_true, Bool.and_eq_true, decide_eq_true_eq] at hc
  exact hc

/-- Letters and digits are what names are made of. -/
def IsNameCharacter (c : Char) : Prop :=
  isLetter c = true ∨ isDigit c = true

instance : DecidablePred IsNameCharacter :=
  fun _ => inferInstanceAs (Decidable (_ ∨ _))

theorem IsNameCharacter.toNat {c : Char} (hc : IsNameCharacter c) :
    48 ≤ c.toNat ∧ c.toNat ≤ 57 ∨ 65 ≤ c.toNat ∧ c.toNat ≤ 122 := by
  rcases hc with hc | hc
  · have h := toNat_of_isLetter hc
    omega
  · exact Or.inl (toNat_of_isDigit hc)

theorem IsNameCharacter.isBlank_eq_false {c : Char} (hc : IsNameCharacter c) :
    isBlank c = false := by
  have h := hc.toNat
  exact isBlank_eq_false_of_toNat (by omega) (by omega)

theorem IsNameCharacter.isWordCharacter {c : Char} (hc : IsNameCharacter c) :
    isWordCharacter c = true := by
  have h := hc.toNat
  rw [Text.isWordCharacter, if_pos (by omega)]
  rcases hc with hc | hc <;> simp [hc]

theorem isLetter_of_mem_base {base : String} (hbase : base ∈ catalogue) :
    ∀ c ∈ base.toList, isLetter c = true := by
  have hall : ∀ b ∈ catalogue, b.toList.all isLetter = true := by decide
  exact List.all_eq_true.mp (hall base hbase)

theorem isNameCharacter_of_mem_suffixText
    {suffix? : Option Suffix} {c : Char} (hc : c ∈ suffixText suffix?) :
    IsNameCharacter c := by
  rcases suffix? with - | (bits | ⟨bits, places⟩)
  · simp [suffixText] at hc
  · exact Or.inr (isDigit_of_mem_decimalNat hc)
  · have hx : IsNameCharacter 'x' := Or.inl (by decide)
    simp only [suffixText, Option.map_some, Option.getD_some, Suffix.spelling,
      List.mem_append, List.mem_cons] at hc
    rcases hc with hc | rfl | hc
    · exact Or.inr (isDigit_of_mem_decimalNat hc)
    · exact hx
    · exact Or.inr (isDigit_of_mem_decimalNat hc)

/-- A row of letters and digits has neither blanks nor a dimension at its ends. -/
theorem isAtomic_of_forall {word : List Char} (hword : ∀ c ∈ word, IsNameCharacter c) :
    IsAtomic word where
  stripped := by
    rw [strip_eq_self_iff]
    constructor
    · intro c hc
      exact (hword c (List.mem_of_mem_head? hc)).isBlank_eq_false
    · intro c hc
      exact (hword c (List.mem_of_mem_getLast? hc)).isBlank_eq_false
  noDimension := by
    rintro ⟨front, digits, rfl, -⟩
    have hbracket := hword ']' (by simp)
    exact absurd hbracket (by decide)

/-- A suffix starts with a digit. -/
theorem isDigit_head_suffixText
    {suffix? : Option Suffix} {c : Char} (hc : c ∈ (suffixText suffix?).head?) :
    isDigit c = true := by
  rcases suffix? with - | (bits | ⟨bits, places⟩)
  · simp [suffixText] at hc
  · exact isDigit_of_mem_decimalNat (List.mem_of_mem_head? hc)
  · have hhead : (suffixText (some (.pair bits places))).head? =
        (decimalNat bits).head? :=
      List.head?_append_of_ne_nil _ (decimalNat_ne_nil bits)
    rw [hhead] at hc
    exact isDigit_of_mem_decimalNat (List.mem_of_mem_head? hc)

theorem isLetter_eq_false_of_isDigit {c : Char} (hc : isDigit c = true) :
    isLetter c = false := by
  cases hletter : isLetter c with
  | false => rfl
  | true =>
      have hd := toNat_of_isDigit hc
      have hl := toNat_of_isLetter hletter
      omega

namespace Elementary

variable (e : Elementary)

theorem base_mem_catalogue : e.base ∈ catalogue :=
  (isListed_iff.mp e.listed).1

theorem toList_name : e.name.toList = e.base.toList ++ suffixText e.suffix? := by
  rw [name, String.toList_ofList]

theorem isNameCharacter_of_mem_name {c : Char} (hc : c ∈ e.name.toList) :
    IsNameCharacter c := by
  rw [toList_name, List.mem_append] at hc
  rcases hc with hc | hc
  · exact Or.inl (isLetter_of_mem_base e.base_mem_catalogue c hc)
  · exact isNameCharacter_of_mem_suffixText hc

theorem isLetter_head_suffixText :
    ∀ c ∈ (suffixText e.suffix?).head?, isLetter c = false :=
  fun _ hc => isLetter_eq_false_of_isDigit (isDigit_head_suffixText hc)

theorem takeWhile_isLetter_name :
    e.name.toList.takeWhile isLetter = e.base.toList := by
  rw [toList_name]
  exact takeWhile_append_of_head?
    (isLetter_of_mem_base e.base_mem_catalogue) e.isLetter_head_suffixText

theorem base_toList_ne_nil : e.base.toList ≠ [] := by
  have hall : ∀ b ∈ catalogue, b.toList ≠ [] := by decide
  exact hall e.base e.base_mem_catalogue

theorem name_toList_ne_nil : e.name.toList ≠ [] := by
  rw [toList_name]
  exact List.append_ne_nil_of_left_ne_nil e.base_toList_ne_nil _

/-- A character that is neither a letter nor a digit is in no name. -/
theorem not_mem_name {c : Char} (hletter : isLetter c = false)
    (hdigit : isDigit c = false) : c ∉ e.name.toList := by
  intro hc
  rcases e.isNameCharacter_of_mem_name hc with h | h
  · rw [hletter] at h
    cases h
  · rw [hdigit] at h
    cases h

/-- A name of the catalogue has neither blanks nor a dimension at its ends. -/
theorem isAtomic_name : IsAtomic e.name.toList :=
  isAtomic_of_forall fun _ => e.isNameCharacter_of_mem_name

end Elementary

/-! ## Length of a name -/

theorem length_decimalNat_le_three {n : Nat} (hn : n ≤ 256) :
    (decimalNat n).length ≤ 3 := by
  rw [length_decimalNat_le_iff n (by decide)]
  exact Nat.lt_of_le_of_lt hn (by decide)

theorem IsListed.length_suffixText_le {base : String} {suffix? : Option Suffix}
    (h : IsListed base suffix?) : (suffixText suffix?).length ≤ 7 := by
  cases h with
  | sizedBytes _ high =>
      have hcount := length_decimalNat_le_three (Nat.le_trans high (by decide))
      simp only [suffixText, Option.map_some, Option.getD_some, Suffix.spelling]
      omega
  | integer _ _ high =>
      have hbits := length_decimalNat_le_three high
      simp only [suffixText, Option.map_some, Option.getD_some, Suffix.spelling]
      omega
  | decimal _ _ high _ _ highPlaces =>
      have hbits := length_decimalNat_le_three high
      have hplaces := length_decimalNat_le_three
        (Nat.le_trans highPlaces (by decide))
      simp only [suffixText, Option.map_some, Option.getD_some, Suffix.spelling,
        List.length_append, List.length_cons]
      omega
  | _ => simp [suffixText]

theorem Elementary.length_name_le (e : Elementary) : e.name.toList.length ≤ 14 := by
  have hbases : ∀ b ∈ catalogue, b.toList.length ≤ 7 := by decide
  have hbase := hbases e.base e.base_mem_catalogue
  have hsuffix := e.listed.length_suffixText_le
  rw [toList_name, List.length_append]
  omega

end SolidityLayout.Abi
