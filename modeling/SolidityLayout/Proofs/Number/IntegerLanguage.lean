import SolidityLayout.Number.Literal
import SolidityLayout.Proofs.Text.Stripping

/-!
# The language of integer literals

A decimal literal is a row of digits of any script, in which single underscores may stand
between two digits, with at most one sign before it and blanks at either end.  The reader
of integers takes exactly these texts, as long as the row keeps to the digit limit.
-/

namespace SolidityLayout.Number

open Text

/-! ## Rows of digits -/

/-- The non-empty rows of digits in which single underscores may stand between two digits,
with the values of the digits. -/
inductive IsDigitRow (digit? : Char → Option Nat) : List Char → List Nat → Prop
  | single {c : Char} {value : Nat} (hc : digit? c = some value) :
      IsDigitRow digit? [c] [value]
  | next {c : Char} {cs : List Char} {value : Nat} {digits : List Nat}
      (hc : digit? c = some value) (hrest : IsDigitRow digit? cs digits) :
      IsDigitRow digit? (c :: cs) (value :: digits)
  | separated {c : Char} {cs : List Char} {value : Nat} {digits : List Nat}
      (hc : digit? c = some value) (hrest : IsDigitRow digit? cs digits) :
      IsDigitRow digit? (c :: '_' :: cs) (value :: digits)

namespace IsDigitRow

variable {digit? : Char → Option Nat} {cs : List Char} {digits : List Nat}

theorem isSome_of_mem_head? (h : IsDigitRow digit? cs digits) :
    ∀ c ∈ cs.head?, (digit? c).isSome = true := by
  cases h with
  | single hc => simp [hc]
  | next hc => simp [hc]
  | separated hc => simp [hc]

theorem isSome_of_mem_getLast? (h : IsDigitRow digit? cs digits) :
    ∀ c ∈ cs.getLast?, (digit? c).isSome = true := by
  induction h with
  | single hc => simp [hc]
  | @next d cs _ _ hd hrest ih =>
      cases cs with
      | nil => simp [hd]
      | cons e more => simpa using ih
  | @separated d cs _ _ hd hrest ih =>
      cases cs with
      | nil => cases hrest
      | cons e more => simpa using ih

theorem isSome_or_eq_of_mem (h : IsDigitRow digit? cs digits) {c : Char} (hc : c ∈ cs) :
    (digit? c).isSome = true ∨ c = '_' := by
  induction h with
  | single hd =>
      obtain rfl := List.mem_singleton.mp hc
      exact Or.inl (Option.isSome_of_eq_some hd)
  | next hd _ ih =>
      rcases List.mem_cons.mp hc with rfl | hc
      · exact Or.inl (Option.isSome_of_eq_some hd)
      · exact ih hc
  | separated hd _ ih =>
      rcases List.mem_cons.mp hc with rfl | hc
      · exact Or.inl (Option.isSome_of_eq_some hd)
      · rcases List.mem_cons.mp hc with rfl | hc
        · exact Or.inr rfl
        · exact ih hc

theorem forall_mem {P : Nat → Prop} (h : IsDigitRow digit? cs digits)
    (hdigit : ∀ {c value}, digit? c = some value → P value) : ∀ d ∈ digits, P d := by
  induction h with
  | single hc => simpa using hdigit hc
  | next hc _ ih => exact List.forall_mem_cons.mpr ⟨hdigit hc, ih⟩
  | separated hc _ ih => exact List.forall_mem_cons.mpr ⟨hdigit hc, ih⟩

/-- A row of digits is read; an underscore must not be a digit itself. -/
theorem groupedDigits? (hunderscore : digit? '_' = none) (h : IsDigitRow digit? cs digits) :
    Number.groupedDigits? digit? cs = some digits := by
  induction h with
  | single hc =>
      rw [Number.groupedDigits?, hc]
      rfl
  | @next c cs value _ hc hrest ih =>
      cases cs with
      | nil => cases hrest
      | cons d more =>
          have hd : d ≠ '_' := by
            rintro rfl
            have hsome := hrest.isSome_of_mem_head? _ rfl
            rw [hunderscore] at hsome
            cases hsome
          simp only [Number.groupedDigits?, hc, if_neg hd, ih, Option.map_some]
  | separated hc _ ih =>
      simp only [Number.groupedDigits?, hc, if_true, ih, Option.map_some]

end IsDigitRow

theorem isDigitRow_of_groupedDigits?
    {digit? : Char → Option Nat} {cs : List Char} {digits : List Nat}
    (h : groupedDigits? digit? cs = some digits) : IsDigitRow digit? cs digits := by
  induction cs using groupedDigits?.induct digit? generalizing digits with
  | case1 => cases h
  | case2 c =>
      rw [groupedDigits?] at h
      obtain ⟨value, hvalue, rfl⟩ := Option.map_eq_some_iff.mp h
      exact .single hvalue
  | case3 c d rest hnone =>
      rw [groupedDigits?, hnone] at h
      cases h
  | case4 c rest value hvalue ih =>
      rw [groupedDigits?, hvalue] at h
      simp only [if_true] at h
      obtain ⟨tail, htail, rfl⟩ := Option.map_eq_some_iff.mp h
      exact .separated hvalue (ih htail)
  | case5 c d rest value hvalue hd ih =>
      rw [groupedDigits?, hvalue] at h
      simp only [if_neg hd] at h
      obtain ⟨tail, htail, rfl⟩ := Option.map_eq_some_iff.mp h
      exact .next hvalue (ih htail)

/-! ## Decimal literals -/

/-- The rows of decimal digits within the digit limit, with the numbers they denote. -/
inductive IsNaturalText : List Char → Nat → Prop
  | row {cs : List Char} {digits : List Nat} (hrow : IsDigitRow digitValue? cs digits)
      (hlimit : digits.length ≤ digitLimit) : IsNaturalText cs (ofDigits 10 digits)

/-- The decimal literals without blanks, with the integers they denote. -/
inductive IsSignedText : List Char → Int → Prop
  | bare {cs : List Char} {n : Nat} (hcs : IsNaturalText cs n) : IsSignedText cs n
  | plus {cs : List Char} {n : Nat} (hcs : IsNaturalText cs n) : IsSignedText ('+' :: cs) n
  | minus {cs : List Char} {n : Nat} (hcs : IsNaturalText cs n) : IsSignedText ('-' :: cs) (-n)

/-- The decimal literals, with the integers they denote. -/
inductive IsIntegerText : List Char → Int → Prop
  | padded {before cs after : List Char} {n : Int}
      (hbefore : ∀ c ∈ before, isLiteralBlank c = true) (hcs : IsSignedText cs n)
      (hafter : ∀ c ∈ after, isLiteralBlank c = true) :
      IsIntegerText (before ++ cs ++ after) n

theorem unsignedDecimal?_eq_some_iff {cs : List Char} {n : Nat} :
    unsignedDecimal? cs = some n ↔ IsNaturalText cs n := by
  constructor
  · intro h
    unfold unsignedDecimal? at h
    split at h
    · cases h
    · rename_i digits hdigits
      split at h
      · rename_i hlimit
        cases h
        exact .row (isDigitRow_of_groupedDigits? hdigits) hlimit
      · cases h
  · rintro ⟨hrow, hlimit⟩
    have hread := hrow.groupedDigits? (by decide)
    simp only [unsignedDecimal?, hread, if_pos hlimit]

/-- A digit is no sign. -/
theorem IsNaturalText.not_mem_head? {cs : List Char} {n : Nat} (h : IsNaturalText cs n) :
    '+' ∉ cs.head? ∧ '-' ∉ cs.head? := by
  obtain ⟨hrow, -⟩ := h
  constructor
  · intro hplus
    exact absurd (hrow.isSome_of_mem_head? _ hplus) (by decide)
  · intro hminus
    exact absurd (hrow.isSome_of_mem_head? _ hminus) (by decide)

theorem signedDecimal?_eq_some_iff {cs : List Char} {n : Int} :
    signedDecimal? cs = some n ↔ IsSignedText cs n := by
  constructor
  · intro h
    unfold signedDecimal? at h
    split at h
    · obtain ⟨m, hm, rfl⟩ := Option.map_eq_some_iff.mp h
      exact .plus (unsignedDecimal?_eq_some_iff.mp hm)
    · obtain ⟨m, hm, rfl⟩ := Option.map_eq_some_iff.mp h
      obtain ⟨k, hk, hcast⟩ := Option.bind_eq_some_iff.mp hm
      cases hcast
      exact .minus (unsignedDecimal?_eq_some_iff.mp hk)
    · obtain ⟨m, hm, rfl⟩ := Option.map_eq_some_iff.mp h
      exact .bare (unsignedDecimal?_eq_some_iff.mp hm)
  · intro h
    cases h with
    | plus hcs =>
        rw [signedDecimal?, unsignedDecimal?_eq_some_iff.mpr hcs]
        rfl
    | minus hcs =>
        rw [signedDecimal?, unsignedDecimal?_eq_some_iff.mpr hcs]
        rfl
    | bare hcs =>
        unfold signedDecimal?
        split
        · exact (hcs.not_mem_head?.1 rfl).elim
        · exact (hcs.not_mem_head?.2 rfl).elim
        · rw [unsignedDecimal?_eq_some_iff.mpr hcs]
          rfl

/-! ## Blanks around a literal -/

/-- The digits of no script are blank. -/
theorem isLiteralBlank_eq_false_of_isSome {c : Char} (hc : (digitValue? c).isSome = true) :
    isLiteralBlank c = false := by
  obtain ⟨value, hvalue⟩ := Option.isSome_iff_exists.mp hc
  obtain ⟨first, hfirst, -⟩ := Option.map_eq_some_iff.mp hvalue
  have hmem := List.mem_of_find?_eq_some hfirst
  have hrange := List.find?_some hfirst
  simp only [Bool.and_eq_true, decide_eq_true_eq] at hrange
  have hall : ∀ code ∈ digitZeros, ∀ d < 10, isLiteralBlank (Char.ofNat (code + d)) = false := by
    decide +kernel
  have hchar : Char.ofNat (first + (c.toNat - first)) = c := by
    rw [Nat.add_sub_cancel' hrange.1, Char.ofNat_toNat]
  rw [← hchar]
  exact hall first hmem _ (by omega)

theorem IsNaturalText.isLiteralBlank_eq_false {cs : List Char} {n : Nat}
    (h : IsNaturalText cs n) :
    (∀ c ∈ cs.head?, isLiteralBlank c = false) ∧
      ∀ c ∈ cs.getLast?, isLiteralBlank c = false := by
  obtain ⟨hrow, -⟩ := h
  exact ⟨fun c hc => isLiteralBlank_eq_false_of_isSome (hrow.isSome_of_mem_head? c hc),
    fun c hc => isLiteralBlank_eq_false_of_isSome (hrow.isSome_of_mem_getLast? c hc)⟩

/-- Behind a sign only the last digit can be at an end. -/
theorem IsNaturalText.trim_cons {cs : List Char} {n : Nat} (h : IsNaturalText cs n)
    {sign : Char} (hsign : isLiteralBlank sign = false) :
    trim isLiteralBlank (sign :: cs) = sign :: cs := by
  rw [trim_eq_self_iff]
  refine ⟨by simpa using hsign, ?_⟩
  cases cs with
  | nil => simpa using hsign
  | cons d more => simpa using h.isLiteralBlank_eq_false.2

/-- A literal without blanks keeps both of its ends. -/
theorem IsSignedText.trim_eq {cs : List Char} {n : Int} (h : IsSignedText cs n) :
    trim isLiteralBlank cs = cs := by
  cases h with
  | bare hcs => exact trim_eq_self_iff.mpr hcs.isLiteralBlank_eq_false
  | plus hcs => exact hcs.trim_cons (by decide)
  | minus hcs => exact hcs.trim_cons (by decide)

/-- The reader of integers takes exactly the decimal literals. -/
theorem decimal?_eq_some_iff {cs : List Char} {n : Int} :
    decimal? cs = some n ↔ IsIntegerText cs n := by
  constructor
  · intro h
    obtain ⟨before, after, hsplit, hbefore, hafter⟩ := exists_eq_append_trim isLiteralBlank cs
    rw [hsplit, ← List.append_assoc]
    exact .padded hbefore (signedDecimal?_eq_some_iff.mp h) hafter
  · rintro ⟨hbefore, hcs, hafter⟩
    rw [decimal?, trim_append_append hbefore hafter, hcs.trim_eq]
    exact signedDecimal?_eq_some_iff.mpr hcs

/-- A literal denotes one integer. -/
theorem IsIntegerText.unique {cs : List Char} {m n : Int}
    (hm : IsIntegerText cs m) (hn : IsIntegerText cs n) : m = n := by
  rw [← decimal?_eq_some_iff] at hm hn
  exact Option.some.inj (hm.symm.trans hn)

end SolidityLayout.Number
