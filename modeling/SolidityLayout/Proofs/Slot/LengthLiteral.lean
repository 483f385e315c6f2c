import SolidityLayout.Proofs.Number.HexadecimalLanguage
import SolidityLayout.Proofs.Source.Numbers
import SolidityLayout.Slot.ArrayLength

/-!
# Literals that give a length

The value of a literal denotes an integer if it is one, or if it is an ASCII text
that spells one between blanks: in decimal digits with a sign and within the digit
limit, or in any number of hexadecimal digits behind a mark.  A literal gives a
length exactly if the integer it denotes is not negative.
-/

namespace SolidityLayout

open Ast Number Text

theorem LayoutError.failure_malformedTree {cause : MalformedTree} (h : cause.isShowable = true) :
    failure (.malformedTree cause) = .layout (.malformedTree cause) :=
  if_pos h

namespace ArrayLength

/-- All characters of a text are ASCII characters. -/
def IsPlainText (text : String) : Prop :=
  ∀ c ∈ text.toList, c.toNat < 128

theorem isAscii_eq_true_iff {text : String} :
    isAscii text.toList = true ↔ IsPlainText text := by
  simp [isAscii, IsPlainText]

/-- The value of a literal denotes an integer. -/
inductive Denotes : Json → Int → Prop
  | integer (n : Int) : Denotes (.int n) n
  | decimal {text : String} {n : Int} (hplain : IsPlainText text)
      (hliteral : IsSignedText (strip text.toList) n) : Denotes (.str text) n
  | hexadecimal {text : String} {x : Char} {cs : List Char} {n : Nat}
      (hplain : IsPlainText text) (hmark : x = 'x' ∨ x = 'X')
      (htext : strip text.toList = '0' :: x :: cs) (hdigits : IsHexadecimalText cs n) :
      Denotes (.str text) n

/-! ## Stripped literals -/

/-- Every blank that may surround a literal is already taken off. -/
theorem decimal?_strip (cs : List Char) : decimal? (strip cs) = signedDecimal? (strip cs) := by
  obtain ⟨hhead, hlast⟩ := strip_eq_self_iff.mp (strip_strip cs)
  have htrim : trim isLiteralBlank (strip cs) = strip cs :=
    trim_eq_self_iff.mpr
      ⟨fun c hc => isLiteralBlank_of_isBlank_eq_false (hhead c hc),
        fun c hc => isLiteralBlank_of_isBlank_eq_false (hlast c hc)⟩
  rw [decimal?, htrim]

theorem startsHexadecimal_eq_true_iff {cs : List Char} :
    startsHexadecimal cs = true ↔ ∃ x rest, (x = 'x' ∨ x = 'X') ∧ cs = '0' :: x :: rest := by
  unfold startsHexadecimal
  split
  · rename_i x rest
    simp
  · rename_i hno
    simp only [Bool.false_eq_true, false_iff]
    intro h
    obtain ⟨x, rest, -, hcs⟩ := h
    exact hno x rest hcs

/-- The mark is no part of a decimal literal. -/
theorem not_isSignedText_of_mark {x : Char} (hmark : x = 'x' ∨ x = 'X') {cs : List Char}
    {n : Int} : ¬IsSignedText ('0' :: x :: cs) n := by
  intro h
  cases h with
  | bare hcs =>
      obtain ⟨hrow, -⟩ := hcs
      have hx := hrow.isSome_or_eq_of_mem (c := x) (by simp)
      rcases hmark with rfl | rfl
      · exact absurd hx (by decide)
      · exact absurd hx (by decide)

theorem literal?_strip_eq_some_iff {cs : List Char} {n : Int} :
    literal? (strip cs) = some n ↔
      IsSignedText (strip cs) n ∨
        ∃ x rest m, (x = 'x' ∨ x = 'X') ∧ strip cs = '0' :: x :: rest ∧
          IsHexadecimalText rest m ∧ (m : Int) = n := by
  by_cases hhex : startsHexadecimal (strip cs) = true
  · obtain ⟨x, rest, hmark, htext⟩ := startsHexadecimal_eq_true_iff.mp hhex
    rw [literal?, if_pos hhex, htext, Option.map_eq_some_iff]
    constructor
    · intro h
      obtain ⟨m, hm, hn⟩ := h
      exact Or.inr ⟨x, rest, m, hmark, rfl, hexadecimalDigits?_eq_some_iff.mp hm, hn⟩
    · intro h
      rcases h with hsigned | ⟨y, other, m, -, heq, hm, hn⟩
      · exact (not_isSignedText_of_mark hmark hsigned).elim
      · obtain ⟨-, heq⟩ := List.cons.inj heq
        obtain ⟨-, heq⟩ := List.cons.inj heq
        exact ⟨m, hexadecimalDigits?_eq_some_iff.mpr (heq ▸ hm), hn⟩
  · rw [literal?, if_neg hhex, decimal?_strip, signedDecimal?_eq_some_iff]
    constructor
    · exact Or.inl
    · intro h
      rcases h with hsigned | ⟨x, rest, m, hmark, htext, -, -⟩
      · exact hsigned
      · exact (hhex (startsHexadecimal_eq_true_iff.mpr ⟨x, rest, hmark, htext⟩)).elim

/-- The reader of literals finds the integer that a value denotes. -/
theorem integer?_eq_some_iff {value : Json} {n : Int} :
    integer? value = some n ↔ Denotes value n := by
  constructor
  · intro h
    unfold integer? at h
    split at h
    · rw [← Option.some.inj h]
      exact .integer _
    · rename_i text
      by_cases hplain : isAscii text.toList = true
      · rw [if_pos hplain, literal?_strip_eq_some_iff] at h
        have hplain := isAscii_eq_true_iff.mp hplain
        rcases h with hsigned | ⟨x, rest, m, hmark, htext, hm, hn⟩
        · exact .decimal hplain hsigned
        · rw [← hn]
          exact .hexadecimal hplain hmark htext hm
      · rw [if_neg hplain] at h
        cases h
    · cases h
  · intro h
    cases h with
    | integer => rfl
    | decimal hplain hsigned =>
        rw [integer?, if_pos (isAscii_eq_true_iff.mpr hplain)]
        exact literal?_strip_eq_some_iff.mpr (Or.inl hsigned)
    | hexadecimal hplain hmark htext hm =>
        rw [integer?, if_pos (isAscii_eq_true_iff.mpr hplain)]
        exact literal?_strip_eq_some_iff.mpr (Or.inr ⟨_, _, _, hmark, htext, hm, rfl⟩)

/-! ## Texts of numbers -/

/-- A text without blanks at its ends and with ASCII characters only. -/
theorem isPlainText_and_strip {cs : List Char}
    (h : ∀ c ∈ cs, 33 ≤ c.toNat ∧ c.toNat ≤ 126) :
    IsPlainText (String.ofList cs) ∧ strip (String.ofList cs).toList = cs := by
  rw [IsPlainText, String.toList_ofList]
  constructor
  · intro c hc
    have hrange := h c hc
    omega
  · exact trim_eq_self_of_forall fun c hc =>
      isBlank_eq_false_of_toNat (h c hc).1 (h c hc).2

/-- The decimal digits of a number denote it, with or without underscores. -/
theorem denotes_decimalNat {n : Nat} {cs : List Char} (hspaced : IsSpaced (decimalNat n) cs)
    (hn : n < Nat.pow 10 digitLimit) : Denotes (.str (String.ofList cs)) n := by
  have hrow := hspaced.isDigitRow fun c hc =>
    isDecimalDigit_of_isDigit (isDigit_of_mem_decimalNat hc)
  have hlimit : ((decimalNat n).filterMap digitValue?).length ≤ digitLimit := by
    refine Nat.le_trans (List.length_filterMap_le _ _) ?_
    exact (length_decimalNat_le_digitLimit_iff n).mpr ((isShowable_natCast_iff n).mpr hn)
  have hnatural := IsNaturalText.row hrow hlimit
  rw [ofDigits_decimalNat] at hnatural
  have hrange : ∀ c ∈ cs, 33 ≤ c.toNat ∧ c.toNat ≤ 126 := by
    intro c hc
    rcases hspaced.mem_or_eq hc with hdigit | hunderscore
    · have hcode := toNat_of_isDigit (isDigit_of_mem_decimalNat hdigit)
      omega
    · rw [hunderscore]
      decide
  obtain ⟨hplain, hstrip⟩ := isPlainText_and_strip hrange
  refine .decimal hplain ?_
  rw [hstrip]
  exact .bare hnatural

/-- The hexadecimal digits of a number denote it behind a mark, with or without
underscores. -/
theorem denotes_hexadecimalNat {n : Nat} {x : Char} {cs : List Char}
    (hmark : x = 'x' ∨ x = 'X') (hspaced : IsSpaced (hexadecimalNat n) cs) :
    Denotes (.str (String.ofList ('0' :: x :: cs))) n := by
  obtain ⟨hdigits, hvalue⟩ := hexadecimalNat_denotes n
  have htext := IsHexadecimalText.row (hspaced.isDigitRow hdigits)
  rw [hvalue] at htext
  have hrange : ∀ c ∈ '0' :: x :: cs, 33 ≤ c.toNat ∧ c.toNat ≤ 126 := by
    intro c hc
    rcases List.mem_cons.mp hc with hzero | hc
    · rw [hzero]
      decide
    · rcases List.mem_cons.mp hc with hx | hc
      · rcases hmark with hmark | hmark
        · rw [hx, hmark]
          decide
        · rw [hx, hmark]
          decide
      · rcases hspaced.mem_or_eq hc with hdigit | hunderscore
        · have hcode := toNat_of_hexDigitValue? (hdigits c hdigit)
          omega
        · rw [hunderscore]
          decide
  obtain ⟨hplain, hstrip⟩ := isPlainText_and_strip hrange
  exact .hexadecimal hplain hmark hstrip htext

/-! ## Outcomes -/

/-- An integer that is spelled in a literal can be shown if it is negative. -/
theorem isShowable_of_denotes_negSucc {text : String} {k : Nat}
    (h : Denotes (.str text) (Int.negSucc k)) :
    Number.isShowable (Int.negSucc k) = true := by
  generalize hn : Int.negSucc k = n at h
  cases h with
  | decimal hplain hsigned =>
      have hread := decimal?_strip text.toList
      rw [signedDecimal?_eq_some_iff.mpr hsigned] at hread
      exact isShowable_of_decimal? hread
  | hexadecimal => cases hn

theorem ofValue_of_denotes {value : Json} {n : Nat} (h : Denotes value n) :
    ofValue value = .ok n := by
  rw [ofValue, integer?_eq_some_iff.mpr h]

theorem ofValue_of_denotes_negSucc {value : Json} {k : Nat}
    (h : Denotes value (Int.negSucc k)) :
    ofValue value =
      .error (LayoutError.failure (.malformedTree (.negativeLength (Int.negSucc k)))) := by
  rw [ofValue, integer?_eq_some_iff.mpr h]

theorem ofValue_of_not_denotes {value : Json} (h : ¬∃ n, Denotes value n) :
    ofValue value = .error (LayoutError.failure (.malformedTree (.lengthNotNumeric value))) := by
  have hnone : integer? value = none := by
    rw [Option.eq_none_iff_forall_ne_some]
    exact fun n hn => h ⟨n, integer?_eq_some_iff.mp hn⟩
  rw [ofValue, hnone]

theorem Denotes.unique {value : Json} {m n : Int} (hm : Denotes value m)
    (hn : Denotes value n) : m = n := by
  rw [← integer?_eq_some_iff] at hm hn
  exact Option.some.inj (hm.symm.trans hn)

theorem ofValue_eq_ok_iff {value : Json} {n : Nat} :
    ofValue value = .ok n ↔ Denotes value n := by
  refine ⟨fun h => ?_, ofValue_of_denotes⟩
  by_cases hdenotes : ∃ m, Denotes value m
  · obtain ⟨m, hm⟩ := hdenotes
    cases m with
    | ofNat k =>
        rw [ofValue_of_denotes hm, Except.ok.injEq] at h
        rw [← h]
        exact hm
    | negSucc k =>
        rw [ofValue_of_denotes_negSucc hm] at h
        cases h
  · rw [ofValue_of_not_denotes hdenotes] at h
    cases h

theorem ofNode_eq_ofValue {node : Node} {value : Json} (htag : node.isTagged "Literal" = true)
    (hvalue : node.attribute? "value" = some value) (hnull : value ≠ .null) :
    ofNode node = ofValue value := by
  unfold ofNode
  rw [htag, hvalue]
  cases value with
  | null => exact (hnull rfl).elim
  | _ => rfl

theorem isShowable_iff_natAbs_lt (n : Int) :
    Number.isShowable n = true ↔ n.natAbs < Nat.pow 10 digitLimit :=
  decide_eq_true_iff

/-- The value of a literal is an integer within the digit limit, or a text. -/
def IsLengthCandidate (value : Json) : Prop :=
  (∃ n : Int, value = .int n ∧ n.natAbs < Nat.pow 10 digitLimit) ∨ ∃ text, value = .str text

/-- A literal with an integer or a text for its value gives a length exactly if the
value denotes an integer that is not negative.  It is malformed if the integer is
negative, or if no integer is denoted.  The decimal and the hexadecimal digits of
every number give that number, also with underscores between them, and a text with
another than an ASCII character gives none. -/
theorem ofNode_outcome
    {node : Node} {value : Json} (htag : node.isTagged "Literal" = true)
    (hvalue : node.attribute? "value" = some value) (hkind : IsLengthCandidate value) :
    (∀ n : Nat, ofNode node = .ok n ↔ Denotes value n) ∧
    (∀ n : Int, Denotes value n → n < 0 →
      ofNode node = .error (.layout (.malformedTree (.negativeLength n)))) ∧
    ((¬∃ n, Denotes value n) →
      ofNode node = .error (.layout (.malformedTree (.lengthNotNumeric value)))) ∧
    (∀ n cs, value = .str (String.ofList cs) → IsSpaced (decimalNat n) cs →
      n < Nat.pow 10 digitLimit → ofNode node = .ok n) ∧
    (∀ n x cs, value = .str (String.ofList ('0' :: x :: cs)) → x = 'x' ∨ x = 'X' →
      IsSpaced (hexadecimalNat n) cs → ofNode node = .ok n) ∧
    ∀ text, value = .str text → ¬IsPlainText text →
      ofNode node = .error (.layout (.malformedTree (.lengthNotNumeric value))) := by
  have hnull : value ≠ .null := by
    intro h
    rw [h] at hkind
    simp [IsLengthCandidate] at hkind
  have hshow : (MalformedTree.lengthNotNumeric value).isShowable = true := by
    rcases hkind with ⟨n, rfl, hn⟩ | ⟨text, rfl⟩
    · exact (isShowable_iff_natAbs_lt n).mpr hn
    · rfl
  have hok : ∀ n : Nat, ofNode node = .ok n ↔ Denotes value n := by
    intro n
    rw [ofNode_eq_ofValue htag hvalue hnull]
    exact ofValue_eq_ok_iff
  have hnone : (¬∃ n, Denotes value n) →
      ofNode node = .error (.layout (.malformedTree (.lengthNotNumeric value))) := by
    intro hdenotes
    rw [ofNode_eq_ofValue htag hvalue hnull, ofValue_of_not_denotes hdenotes,
      LayoutError.failure_malformedTree hshow]
  refine ⟨hok, ?_, hnone, ?_, ?_, ?_⟩
  · intro n hdenotes hnegative
    obtain ⟨k, rfl⟩ := Int.eq_negSucc_of_lt_zero hnegative
    have hshown : (MalformedTree.negativeLength (Int.negSucc k)).isShowable = true := by
      rcases hkind with ⟨m, rfl, hm⟩ | ⟨text, rfl⟩
      · rw [hdenotes.unique (.integer m)]
        exact (isShowable_iff_natAbs_lt m).mpr hm
      · exact isShowable_of_denotes_negSucc hdenotes
    rw [ofNode_eq_ofValue htag hvalue hnull, ofValue_of_denotes_negSucc hdenotes,
      LayoutError.failure_malformedTree hshown]
  · intro n cs htext hspaced hn
    rw [hok, htext]
    exact denotes_decimalNat hspaced hn
  · intro n x cs htext hmark hspaced
    rw [hok, htext]
    exact denotes_hexadecimalNat hmark hspaced
  · intro text htext hplain
    apply hnone
    rw [htext]
    intro hdenotes
    obtain ⟨n, hn⟩ := hdenotes
    cases hn with
    | decimal h => exact hplain h
    | hexadecimal h => exact hplain h

/-- A literal with a given value. -/
def literalNode (value : Json) : Node :=
  .mk ⟨some "Literal", none, none, [("value", value)]⟩ []

/-- Blanks, underscores and digits of either case do not matter, a negative zero is
zero, and a digit of another script is none. -/
theorem ofNode_outcome_unusualTexts :
    ofNode (literalNode (.str "\t0X_1_fF ")) = .ok 511 ∧
    ofNode (literalNode (.str " -0_0")) = .ok 0 ∧
    ofNode (literalNode (.str "٣")) =
      .error (.layout (.malformedTree (.lengthNotNumeric (.str "٣")))) := by
  have hhexadecimal : Denotes (.str "\t0X_1_fF ") (511 : Nat) :=
    integer?_eq_some_iff.mp (by decide +kernel)
  have hzero : Denotes (.str " -0_0") (0 : Nat) := integer?_eq_some_iff.mp (by decide +kernel)
  have hforeign : ¬IsPlainText "٣" := mt isAscii_eq_true_iff.mpr (by decide +kernel)
  have houtcome (text : String) :=
    @ofNode_outcome (literalNode (.str text)) _ rfl rfl (Or.inr ⟨text, rfl⟩)
  refine ⟨((houtcome _).1 511).mpr hhexadecimal, ((houtcome _).1 0).mpr hzero, ?_⟩
  obtain ⟨-, -, -, -, -, hplain⟩ := houtcome "٣"
  exact hplain _ rfl hforeign

end ArrayLength

end SolidityLayout
