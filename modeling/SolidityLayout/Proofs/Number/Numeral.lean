import Mathlib.Data.List.Basic
import SolidityLayout.Number.Decimal
import SolidityLayout.Text.DecimalDigit
import SolidityLayout.Text.WordCharacter

/-!
# Decimal numerals

The decimal digits of a natural number read back as that number, and a row of
digits without a leading zero is the numeral of the number it denotes.  A
number can be shown exactly when its numeral keeps to the digit limit.
-/

namespace SolidityLayout.Number

open Text

/-! ## Digits -/

theorem isDigit_eq (c : Char) : isDigit c = c.isDigit := by
  simp [isDigit, Char.isDigit, Char.le_def]

theorem toNat_of_isDigit {c : Char} (hc : isDigit c = true) :
    48 ≤ c.toNat ∧ c.toNat ≤ 57 := by
  rw [isDigit, Bool.and_eq_true, decide_eq_true_eq, decide_eq_true_eq] at hc
  exact ⟨hc.1, hc.2⟩

theorem digitValue?_of_isDigit {c : Char} (hc : isDigit c = true) :
    digitValue? c = some (c.toNat - '0'.toNat) := by
  have hrange := toNat_of_isDigit hc
  have hfirst : (digitZeros.find? fun first =>
      first ≤ c.toNat && c.toNat < first + 10) = some 48 := by
    apply List.find?_cons_of_pos
    simp only [Bool.and_eq_true, decide_eq_true_eq]
    omega
  rw [digitValue?, hfirst]
  rfl

theorem isDecimalDigit_of_isDigit {c : Char} (hc : isDigit c = true) :
    isDecimalDigit c = true := by
  rw [isDecimalDigit, digitValue?_of_isDigit hc]
  rfl

theorem digitChar_toNat_sub {c : Char} (hc : isDigit c = true) :
    Nat.digitChar (c.toNat - '0'.toNat) = c := by
  have hrange := toNat_of_isDigit hc
  have hzero : '0'.toNat = 48 := rfl
  apply Char.toNat_inj.mp
  rw [Nat.toNat_digitChar_of_lt_ten (by omega)]
  omega

/-! ## Rows of digits -/

/-- ASCII digits denote the same number in the reading of any script. -/
theorem ofDigits_filterMap_digitValue?
    {cs : List Char} (hcs : ∀ c ∈ cs, isDigit c = true) :
    ofDigits 10 (cs.filterMap digitValue?) = Nat.ofDigitChars 10 cs 0 := by
  rw [ofDigits, Nat.ofDigitChars_eq_foldl]
  generalize 0 = n
  induction cs generalizing n with
  | nil => rfl
  | cons c rest ih =>
      have hc := digitValue?_of_isDigit (hcs c (by simp))
      rw [List.filterMap_cons_some hc, List.foldl_cons, List.foldl_cons]
      exact ih (fun d hd => hcs d (by simp [hd])) _

theorem foldl_digits_lt
    {digits : List Nat} (hdigits : ∀ d ∈ digits, d < 10) (n : Nat) :
    digits.foldl (fun n d => 10 * n + d) n <
      (n + 1) * Nat.pow 10 digits.length := by
  induction digits generalizing n with
  | nil => simp
  | cons d rest ih =>
      have hd : d < 10 := hdigits d (by simp)
      have hrest := ih (fun e he => hdigits e (by simp [he])) (10 * n + d)
      calc
        rest.foldl (fun n d => 10 * n + d) (10 * n + d) <
            (10 * n + d + 1) * Nat.pow 10 rest.length := hrest
        _ ≤ (n + 1) * 10 * Nat.pow 10 rest.length :=
          Nat.mul_le_mul_right _ (by omega)
        _ = (n + 1) * Nat.pow 10 (d :: rest).length := by
          have hpow : Nat.pow 10 (rest.length + 1) =
              Nat.pow 10 rest.length * 10 := rfl
          rw [List.length_cons, hpow, Nat.mul_assoc, Nat.mul_comm 10]

theorem ofDigits_lt_pow
    {digits : List Nat} (hdigits : ∀ d ∈ digits, d < 10) :
    ofDigits 10 digits < Nat.pow 10 digits.length := by
  simpa [ofDigits] using foldl_digits_lt hdigits 0

theorem isShowable_natCast_iff (n : Nat) :
    isShowable n = true ↔ n < Nat.pow 10 digitLimit :=
  decide_eq_true_iff

theorem pow_ten_le {a b : Nat} (hab : a ≤ b) : Nat.pow 10 a ≤ Nat.pow 10 b :=
  Nat.pow_le_pow_right (by decide) hab

theorem isShowable_ofDigits
    {digits : List Nat} (hdigits : ∀ d ∈ digits, d < 10)
    (hlength : digits.length ≤ digitLimit) :
    isShowable (ofDigits 10 digits) = true := by
  have hlt := ofDigits_lt_pow hdigits
  rw [isShowable_natCast_iff]
  exact Nat.lt_of_lt_of_le hlt (pow_ten_le hlength)

/-! ## Numerals -/

theorem decimalNat_ne_nil (n : Nat) : decimalNat n ≠ [] :=
  Nat.toDigits_ne_nil

theorem isDigit_of_mem_decimalNat {n : Nat} {c : Char}
    (hc : c ∈ decimalNat n) : isDigit c = true := by
  rw [isDigit_eq]
  exact Nat.isDigit_of_mem_toDigits (by decide) (by decide) hc

theorem ofDigitChars_decimalNat (n : Nat) :
    Nat.ofDigitChars 10 (decimalNat n) 0 = n :=
  Nat.ofDigitChars_ten_toDigits

theorem ofDigits_decimalNat (n : Nat) :
    ofDigits 10 ((decimalNat n).filterMap digitValue?) = n := by
  rw [ofDigits_filterMap_digitValue? fun c => isDigit_of_mem_decimalNat,
    ofDigitChars_decimalNat]

theorem length_decimalNat_le_iff (n : Nat) {k : Nat} (hk : 0 < k) :
    (decimalNat n).length ≤ k ↔ n < Nat.pow 10 k :=
  Nat.length_toDigits_le_iff (by decide) hk

/-- A number can be shown exactly when its numeral keeps to the limit. -/
theorem length_decimalNat_le_digitLimit_iff (n : Nat) :
    (decimalNat n).length ≤ digitLimit ↔ isShowable n = true := by
  rw [isShowable_natCast_iff, length_decimalNat_le_iff n (by decide)]

/-- Digits behind a numeral extend it. -/
theorem decimalNat_append
    {n : Nat} (hn : 0 < n) {cs : List Char}
    (hcs : ∀ c ∈ cs, isDigit c = true) :
    decimalNat n ++ cs = decimalNat (Nat.ofDigitChars 10 cs n) := by
  induction cs generalizing n with
  | nil => simp
  | cons c rest ih =>
      have hc : isDigit c = true := hcs c (by simp)
      have hrange := toNat_of_isDigit hc
      have hzero : '0'.toNat = 48 := rfl
      have hlast : decimalNat n ++ [c] =
          decimalNat (10 * n + (c.toNat - '0'.toNat)) := by
        have h := Nat.toDigits_append_toDigits (b := 10) (n := n)
          (d := c.toNat - '0'.toNat) (by decide) hn (by omega)
        rwa [Nat.toDigits_of_lt_base (n := c.toNat - '0'.toNat) (by omega),
          digitChar_toNat_sub hc] at h
      calc
        decimalNat n ++ c :: rest = (decimalNat n ++ [c]) ++ rest := by simp
        _ = decimalNat (10 * n + (c.toNat - '0'.toNat)) ++ rest := by
          rw [hlast]
        _ = decimalNat (Nat.ofDigitChars 10 (c :: rest) n) := by
          rw [Nat.ofDigitChars_cons]
          exact ih (by omega) fun d hd => hcs d (by simp [hd])

theorem ofDigitChars_pos
    {cs : List Char} {n : Nat} (hn : 0 < n) :
    0 < Nat.ofDigitChars 10 cs n := by
  induction cs generalizing n with
  | nil => simpa
  | cons c rest ih =>
      rw [Nat.ofDigitChars_cons]
      exact ih (by omega)

/-- A row of digits that does not start with a zero is a numeral. -/
theorem decimalNat_ofDigitChars
    {c : Char} {cs : List Char}
    (hc : isDigit c = true) (hzero : c ≠ '0')
    (hcs : ∀ d ∈ cs, isDigit d = true) :
    0 < Nat.ofDigitChars 10 (c :: cs) 0 ∧
      decimalNat (Nat.ofDigitChars 10 (c :: cs) 0) = c :: cs := by
  have hrange := toNat_of_isDigit hc
  have hcode : '0'.toNat = 48 := rfl
  have hne : c.toNat ≠ 48 := fun h => hzero (Char.toNat_inj.mp h)
  have hpos : 0 < c.toNat - '0'.toNat := by omega
  rw [Nat.ofDigitChars_cons, Nat.mul_zero, Nat.zero_add]
  refine ⟨ofDigitChars_pos hpos, ?_⟩
  rw [← decimalNat_append hpos hcs, decimalNat,
    Nat.toDigits_of_lt_base (by omega), digitChar_toNat_sub hc]
  rfl

/-- The numeral of a positive number does not start with a zero. -/
theorem head?_decimalNat_ne_zero {n : Nat} (hn : 0 < n) :
    (decimalNat n).head? ≠ some '0' := by
  induction n using Nat.strongRecOn with
  | ind n ih =>
      rw [decimalNat, Nat.toDigits_eq_if (by decide)]
      split
      · rename_i hlt
        have hall : ∀ d < 10, 0 < d → [d.digitChar].head? ≠ some '0' := by decide
        exact hall n hlt hn
      · have hfront := ih (n / 10) (by omega) (by omega)
        rwa [List.head?_append_of_ne_nil _ Nat.toDigits_ne_nil]

end SolidityLayout.Number
