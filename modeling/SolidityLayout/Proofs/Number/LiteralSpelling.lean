import SolidityLayout.Number.Literal
import SolidityLayout.Proofs.Number.Numeral
import SolidityLayout.Proofs.Text.Stripping

/-!
# Spellings of integer literals

A row of digits is read as the number it denotes, in decimal within the digit
limit and in hexadecimal behind its mark.  Neither spelling has blanks, a sign
or an underscore in it, so none of the other rules for literals applies.
-/

namespace SolidityLayout.Number

open Text

/-! ## Rows of digits -/

/-- A row of digits without underscores is read digit by digit. -/
theorem groupedDigits?_of_forall
    {digit? : Char → Option Nat} {cs : List Char} (hne : cs ≠ [])
    (hdigits : ∀ c ∈ cs, (digit? c).isSome = true) (hunder : '_' ∉ cs) :
    groupedDigits? digit? cs = some (cs.filterMap digit?) := by
  induction cs with
  | nil => exact (hne rfl).elim
  | cons c rest ih =>
      obtain ⟨value, hvalue⟩ := Option.isSome_iff_exists.mp (hdigits c (by simp))
      rw [List.filterMap_cons_some hvalue]
      cases rest with
      | nil => simp [groupedDigits?, hvalue]
      | cons d more =>
          have hd : d ≠ '_' := by
            rintro rfl
            simp at hunder
          have hrest := ih (by simp) (fun e he => hdigits e (by simp [he]))
            (fun h => hunder (by simp [h]))
          simp [groupedDigits?, hvalue, hd, hrest]

/-! ## Decimal literals -/

theorem isLiteralBlank_of_isBlank_eq_false {c : Char} (hc : isBlank c = false) :
    isLiteralBlank c = false := by
  rw [isLiteralBlank, hc]
  rfl

theorem isBlank_of_isDigit {c : Char} (hc : isDigit c = true) :
    isBlank c = false := by
  have h := toNat_of_isDigit hc
  exact isBlank_eq_false_of_toNat (by omega) (by omega)

theorem unsignedDecimal?_of_forall
    {cs : List Char} (hne : cs ≠ []) (hcs : ∀ c ∈ cs, isDigit c = true)
    (hlength : cs.length ≤ digitLimit) :
    unsignedDecimal? cs = some (Nat.ofDigitChars 10 cs 0) := by
  have hunder : '_' ∉ cs := fun h => absurd (hcs _ h) (by decide)
  have hdigits : ∀ c ∈ cs, (digitValue? c).isSome = true :=
    fun c hc => isDecimalDigit_of_isDigit (hcs c hc)
  rw [unsignedDecimal?, groupedDigits?_of_forall hne hdigits hunder]
  simp only [ofDigits_filterMap_digitValue? hcs]
  rw [if_pos (Nat.le_trans (List.length_filterMap_le _ _) hlength)]

/-- A row of ASCII digits is read as the number it denotes. -/
theorem literal?_of_forall_isDigit
    {cs : List Char} (hne : cs ≠ []) (hcs : ∀ c ∈ cs, isDigit c = true)
    (hlength : cs.length ≤ digitLimit) :
    literal? cs = some (Nat.ofDigitChars 10 cs 0) := by
  have htrim : trim isLiteralBlank cs = cs :=
    trim_eq_self_of_forall fun c hc =>
      isLiteralBlank_of_isBlank_eq_false (isBlank_of_isDigit (hcs c hc))
  have hhex : startsHexadecimal cs = false := by
    unfold startsHexadecimal
    split
    · rename_i x rest
      have hx : isDigit x = true := hcs x (by simp)
      rw [Bool.or_eq_false_iff, beq_eq_false_iff_ne, beq_eq_false_iff_ne]
      constructor
      · rintro rfl
        exact absurd hx (by decide)
      · rintro rfl
        exact absurd hx (by decide)
    · rfl
  rw [literal?, hhex, if_neg (by decide), decimal?, htrim]
  unfold signedDecimal?
  split
  · exact absurd (hcs '+' (by simp)) (by decide)
  · exact absurd (hcs '-' (by simp)) (by decide)
  · rw [unsignedDecimal?_of_forall hne hcs hlength]
    rfl

/-! ## Hexadecimal literals -/

theorem toNat_of_hexDigitValue? {c : Char} (hc : (hexDigitValue? c).isSome = true) :
    48 ≤ c.toNat ∧ c.toNat ≤ 57 ∨ 97 ≤ c.toNat ∧ c.toNat ≤ 102 ∨
      65 ≤ c.toNat ∧ c.toNat ≤ 70 := by
  unfold hexDigitValue? at hc
  split at hc
  · rename_i h
    exact Or.inl h
  · split at hc
    · rename_i h
      exact Or.inr (Or.inl h)
    · split at hc
      · rename_i h
        exact Or.inr (Or.inr h)
      · cases hc

/-- Hexadecimal digits behind their mark are read as the number they denote. -/
theorem literal?_of_forall_hexDigitValue?
    {x : Char} (hx : x = 'x' ∨ x = 'X') {cs : List Char} (hne : cs ≠ [])
    (hcs : ∀ c ∈ cs, (hexDigitValue? c).isSome = true) :
    literal? ('0' :: x :: cs) = some (ofDigits 16 (cs.filterMap hexDigitValue?)) := by
  have hunder : '_' ∉ cs := fun h => absurd (hcs _ h) (by decide)
  have hhex : startsHexadecimal ('0' :: x :: cs) = true := by
    rcases hx with rfl | rfl <;> rfl
  have hdigits : hexadecimalDigits? cs =
      some (ofDigits 16 (cs.filterMap hexDigitValue?)) := by
    unfold hexadecimalDigits?
    split
    · exact (hunder (by simp)).elim
    · rw [groupedDigits?_of_forall hne hcs hunder]
      rfl
  rw [literal?, if_pos hhex, List.drop_succ_cons, List.drop_succ_cons,
    List.drop_zero, hdigits]
  rfl

end SolidityLayout.Number
