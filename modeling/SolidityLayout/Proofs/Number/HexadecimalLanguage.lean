import SolidityLayout.Proofs.Number.IntegerLanguage
import SolidityLayout.Proofs.Number.LiteralSpelling

/-!
# The language of hexadecimal literals

A hexadecimal literal is a row of hexadecimal digits behind its mark, with single
underscores between the digits and perhaps one in front of them.  There is no limit
on the number of digits.  Underscores may be put into any row of digits, decimal or
hexadecimal, without changing the number that it denotes.
-/

namespace SolidityLayout.Number

open Text

/-! ## Digits behind the mark -/

/-- What may stand behind the mark of a hexadecimal literal, with the numbers denoted. -/
inductive IsHexadecimalText : List Char → Nat → Prop
  | row {cs : List Char} {digits : List Nat} (hrow : IsDigitRow hexDigitValue? cs digits) :
      IsHexadecimalText cs (ofDigits 16 digits)
  | marked {cs : List Char} {digits : List Nat} (hrow : IsDigitRow hexDigitValue? cs digits) :
      IsHexadecimalText ('_' :: cs) (ofDigits 16 digits)

theorem hexadecimalDigits?_of_isDigitRow {cs : List Char} {digits : List Nat}
    (hrow : IsDigitRow hexDigitValue? cs digits) :
    hexadecimalDigits? cs = some (ofDigits 16 digits) := by
  have hread := hrow.groupedDigits? (by decide)
  unfold hexadecimalDigits?
  split
  · exact absurd (hrow.isSome_of_mem_head? '_' rfl) (by decide)
  · rw [hread, Option.map_some]

theorem hexadecimalDigits?_eq_some_iff {cs : List Char} {n : Nat} :
    hexadecimalDigits? cs = some n ↔ IsHexadecimalText cs n := by
  constructor
  · intro h
    unfold hexadecimalDigits? at h
    split at h
    · obtain ⟨digits, hdigits, hn⟩ := Option.map_eq_some_iff.mp h
      rw [← hn]
      exact .marked (isDigitRow_of_groupedDigits? hdigits)
    · obtain ⟨digits, hdigits, hn⟩ := Option.map_eq_some_iff.mp h
      rw [← hn]
      exact .row (isDigitRow_of_groupedDigits? hdigits)
  · intro h
    cases h with
    | row hrow => exact hexadecimalDigits?_of_isDigitRow hrow
    | marked hrow =>
        have hread := hrow.groupedDigits? (by decide)
        rw [hexadecimalDigits?, hread, Option.map_some]

/-! ## Underscores in a row -/

/-- A row of characters with single underscores put between some of them. -/
inductive IsSpaced : List Char → List Char → Prop
  | single (c : Char) : IsSpaced [c] [c]
  | next (c : Char) {cs spaced : List Char} (h : IsSpaced cs spaced) :
      IsSpaced (c :: cs) (c :: spaced)
  | separated (c : Char) {cs spaced : List Char} (h : IsSpaced cs spaced) :
      IsSpaced (c :: cs) (c :: '_' :: spaced)

/-- A row of digits denotes the same digits with underscores in it. -/
theorem IsSpaced.isDigitRow {digit? : Char → Option Nat} {cs spaced : List Char}
    (h : IsSpaced cs spaced) (hdigits : ∀ c ∈ cs, (digit? c).isSome = true) :
    IsDigitRow digit? spaced (cs.filterMap digit?) := by
  induction h with
  | single c =>
      obtain ⟨value, hvalue⟩ := Option.isSome_iff_exists.mp (hdigits c (by simp))
      rw [List.filterMap_cons_some hvalue]
      exact .single hvalue
  | next c _ ih =>
      obtain ⟨value, hvalue⟩ := Option.isSome_iff_exists.mp (hdigits c (by simp))
      rw [List.filterMap_cons_some hvalue]
      exact .next hvalue (ih fun d hd => hdigits d (by simp [hd]))
  | separated c _ ih =>
      obtain ⟨value, hvalue⟩ := Option.isSome_iff_exists.mp (hdigits c (by simp))
      rw [List.filterMap_cons_some hvalue]
      exact .separated hvalue (ih fun d hd => hdigits d (by simp [hd]))

theorem IsSpaced.mem_or_eq {cs spaced : List Char} (h : IsSpaced cs spaced) {c : Char}
    (hc : c ∈ spaced) : c ∈ cs ∨ c = '_' := by
  induction h with
  | single d => exact Or.inl hc
  | next d _ ih => grind
  | separated d _ ih => grind

/-! ## Numerals -/

theorem ofDigits_append_singleton (base : Nat) (digits : List Nat) (d : Nat) :
    ofDigits base (digits ++ [d]) = base * ofDigits base digits + d := by
  rw [ofDigits, List.foldl_append]
  rfl

theorem hexDigitValue?_digitChar {d : Nat} (hd : d < 16) :
    hexDigitValue? d.digitChar = some d := by
  have hall : ∀ d < 16, hexDigitValue? (Nat.digitChar d) = some d := by decide
  exact hall d hd

/-- The hexadecimal numeral of a number denotes that number. -/
theorem hexadecimalNat_denotes (n : Nat) :
    (∀ c ∈ hexadecimalNat n, (hexDigitValue? c).isSome = true) ∧
      ofDigits 16 ((hexadecimalNat n).filterMap hexDigitValue?) = n := by
  induction n using Nat.strongRecOn with
  | ind n ih =>
      rw [hexadecimalNat, Nat.toDigits_eq_if (by decide)]
      by_cases hsmall : n < 16
      · have hdigit := hexDigitValue?_digitChar hsmall
        rw [if_pos hsmall]
        constructor
        · simp [hdigit]
        · rw [List.filterMap_cons_some hdigit]
          simp [ofDigits]
      · obtain ⟨hsome, hvalue⟩ := ih (n / 16) (by omega)
        have hlast := hexDigitValue?_digitChar (Nat.mod_lt n (by decide : 0 < 16))
        rw [if_neg hsmall]
        constructor
        · intro c hc
          rcases List.mem_append.mp hc with hfront | hback
          · exact hsome c hfront
          · rw [List.mem_singleton.mp hback, hlast]
            rfl
        · rw [List.filterMap_append, List.filterMap_cons_some hlast, List.filterMap_nil,
            ofDigits_append_singleton]
          rw [hexadecimalNat] at hvalue
          rw [hvalue]
          omega

end SolidityLayout.Number
