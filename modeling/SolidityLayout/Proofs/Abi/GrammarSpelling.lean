import SolidityLayout.Proofs.Abi.ValueSpelling

/-!
# What the grammar of type names takes

A match of the grammar is told by the text it takes: the base, the suffix and
the dimensions of a basic type, each in its one spelling, followed by what is
left.  Numbers have one spelling because they do not start with a zero.
-/

namespace SolidityLayout.Abi

open Number Text AbiType

/-- The text of an optional suffix. -/
def suffixText (suffix? : Option Suffix) : List Char :=
  (suffix?.map Suffix.spelling).getD []

/-- The numbers in a suffix are positive, as those of the grammar are. -/
def Suffix.IsPositive : Suffix → Prop
  | size bits => 0 < bits
  | pair bits places => 0 < bits ∧ 0 < places

namespace Grammar

/-! ## Numbers -/

/-- A number is taken off a text exactly when it is positive, its numeral
starts the text and no digit follows. -/
theorem number?_eq_some_iff {cs rest : List Char} {n : Nat} :
    number? cs = some (n, rest) ↔
      0 < n ∧ cs = decimalNat n ++ rest ∧
        ∀ c ∈ rest.head?, isDigit c = false := by
  constructor
  · intro h
    cases cs with
    | nil => cases h
    | cons c tail =>
        simp only [number?] at h
        split at h
        · rename_i hfirst
          rw [Bool.and_eq_true, bne_iff_ne] at hfirst
          simp only [Option.some.injEq, Prod.mk.injEq] at h
          obtain ⟨rfl, rfl⟩ := h
          obtain ⟨hpos, hnumeral⟩ := decimalNat_ofDigitChars hfirst.1 hfirst.2
            fun d (hd : d ∈ tail.takeWhile isDigit) => List.mem_takeWhile_imp hd
          refine ⟨hpos, ?_, ?_⟩
          · rw [hnumeral, List.cons_append, List.takeWhile_append_dropWhile]
          · intro d hd
            exact eq_false_of_mem_head?_dropWhile hd
        · cases h
  · rintro ⟨hpos, rfl, hrest⟩
    cases hdigits : decimalNat n with
    | nil => exact (decimalNat_ne_nil n hdigits).elim
    | cons c tail =>
        have hall : ∀ d ∈ c :: tail, isDigit d = true := by
          intro d hd
          rw [← hdigits] at hd
          exact isDigit_of_mem_decimalNat hd
        have hc : isDigit c = true := hall c (by simp)
        have htail : ∀ d ∈ tail, isDigit d = true :=
          fun d hd => hall d (by simp [hd])
        have hzero : c ≠ '0' := by
          rintro rfl
          apply head?_decimalNat_ne_zero hpos
          rw [hdigits]
          rfl
        have hvalue : Nat.ofDigitChars 10 (c :: tail) 0 = n := by
          rw [← hdigits, ofDigitChars_decimalNat]
        simp only [List.cons_append, number?, hc, Bool.true_and,
          takeWhile_append_of_head? htail hrest,
          dropWhile_append_of_head? htail hrest, hvalue]
        rw [if_pos (by simpa using hzero)]

/-! ## Suffixes -/

theorem suffix_sound {cs rest : List Char} {suffix? : Option Suffix}
    (h : suffix cs = (suffix?, rest)) :
    cs = suffixText suffix? ++ rest ∧ ∀ s ∈ suffix?, s.IsPositive := by
  unfold suffix at h
  split at h
  · cases h
    simp [suffixText]
  · rename_i bits afterBits hbits
    obtain ⟨hpos, rfl, -⟩ := number?_eq_some_iff.mp hbits
    split at h
    · rename_i tail
      split at h
      · rename_i places afterPlaces hplaces
        obtain ⟨hpos', rfl, -⟩ := number?_eq_some_iff.mp hplaces
        cases h
        simp [suffixText, Suffix.spelling, Suffix.IsPositive, hpos, hpos']
      · cases h
        simp [suffixText, Suffix.spelling, Suffix.IsPositive, hpos]
    · cases h
      simp [suffixText, Suffix.spelling, Suffix.IsPositive, hpos]

theorem number?_eq_none {cs : List Char} (h : ∀ c ∈ cs.head?, isDigit c = false) :
    number? cs = none := by
  cases cs with
  | nil => rfl
  | cons c rest => simp [number?, h c rfl]

/-- A suffix is taken whole if nothing that follows can belong to it. -/
theorem suffix_suffixText_append
    {suffix? : Option Suffix} {rest : List Char}
    (hpos : ∀ s ∈ suffix?, s.IsPositive)
    (hdigit : ∀ c ∈ rest.head?, isDigit c = false) (hx : ∀ c ∈ rest.head?, c ≠ 'x') :
    suffix (suffixText suffix? ++ rest) = (suffix?, rest) := by
  rcases suffix? with - | (bits | ⟨bits, places⟩)
  · have hnone : number? rest = none := number?_eq_none hdigit
    simp [suffixText, suffix, hnone]
  · have hbits : number? (decimalNat bits ++ rest) = some (bits, rest) :=
      number?_eq_some_iff.mpr ⟨hpos _ rfl, rfl, hdigit⟩
    simp only [suffixText, Option.map_some, Option.getD_some, Suffix.spelling, suffix,
      hbits]
    split
    · exact (hx 'x' rfl rfl).elim
    · rfl
  · have hletter : isDigit 'x' = false := by decide
    have hbits : number? (decimalNat bits ++ 'x' :: (decimalNat places ++ rest)) =
        some (bits, 'x' :: (decimalNat places ++ rest)) :=
      number?_eq_some_iff.mpr ⟨(hpos _ rfl).1, rfl, by simp [hletter]⟩
    have hplaces : number? (decimalNat places ++ rest) = some (places, rest) :=
      number?_eq_some_iff.mpr ⟨(hpos _ rfl).2, rfl, hdigit⟩
    simp [suffixText, Suffix.spelling, suffix, hbits, hplaces]

/-! ## Dimensions -/

/-- A dimension is taken off a text exactly when it starts the text and its size,
if it has one, is positive. -/
theorem dimension?_eq_some_iff {cs rest : List Char} {size : Option Nat} :
    dimension? cs = some (size, rest) ↔
      cs = dimensionSpelling size ++ rest ∧ ∀ n ∈ size, 0 < n := by
  constructor
  · intro h
    unfold dimension? at h
    split at h
    · cases h
      simp [dimensionSpelling]
    · split at h
      · rename_i n afterSize hsize
        obtain ⟨hpos, rfl, -⟩ := number?_eq_some_iff.mp hsize
        cases h
        simp [dimensionSpelling, hpos]
      · cases h
    · cases h
  · rintro ⟨rfl, hpos⟩
    cases size with
    | none => rfl
    | some n =>
        have hclose : isDigit ']' = false := by decide
        have hsize : number? (decimalNat n ++ ']' :: rest) = some (n, ']' :: rest) :=
          number?_eq_some_iff.mpr ⟨hpos n rfl, rfl, by simp [hclose]⟩
        have htext : dimensionSpelling (some n) ++ rest =
            '[' :: (decimalNat n ++ ']' :: rest) := by
          simp [dimensionSpelling]
        rw [htext]
        unfold dimension?
        split
        · -- A size is not written as an empty row of digits.
          rename_i heq
          rw [(List.cons.inj heq).2] at hsize
          cases hsize
        · rename_i cs' _ heq
          obtain rfl := (List.cons.inj heq).2
          rw [hsize]
          rfl
        · rename_i hno
          exact (hno _ rfl).elim

theorem dimensions_sound (cs : List Char) :
    cs = (dimensions cs).1.flatMap dimensionSpelling ++ (dimensions cs).2 := by
  fun_induction dimensions cs with
  | case1 => simp
  | case2 cs size rest found sizes last heq ih =>
      rw [heq] at ih
      calc
        cs = dimensionSpelling size ++ rest := (dimension?_eq_some_iff.mp found).1
        _ = dimensionSpelling size ++
            (sizes.flatMap dimensionSpelling ++ last) := by rw [← ih]
        _ = (size :: sizes).flatMap dimensionSpelling ++ last := by simp

theorem pos_of_mem_dimensions {cs : List Char} {n : Nat}
    (h : some n ∈ (dimensions cs).1) : 0 < n := by
  fun_induction dimensions cs with
  | case1 => cases h
  | case2 cs size rest found sizes last heq ih =>
      rw [heq] at ih
      rcases List.mem_cons.mp h with rfl | h
      · exact (dimension?_eq_some_iff.mp found).2 n rfl
      · exact ih h

/-- A text can stand behind a type: it is empty, or it starts with one of the characters
that end a type inside parentheses. -/
def EndsType (rest : List Char) : Prop :=
  ∀ c ∈ rest.head?, c = ',' ∨ c = ')'

theorem endsType_nil : EndsType [] := by
  rintro c ⟨⟩

theorem head?_flatMap_dimensionSpelling {sizes : List (Option Nat)} {c : Char}
    (hc : c ∈ (sizes.flatMap dimensionSpelling).head?) : c = '[' := by
  cases sizes with
  | nil => cases hc
  | cons size rest =>
      rw [List.flatMap_cons, dimensionSpelling] at hc
      exact (Option.some.inj hc).symm

theorem head?_dimensions_append
    {rest : List Char} (hrest : EndsType rest) (sizes : List (Option Nat)) :
    ∀ c ∈ (sizes.flatMap dimensionSpelling ++ rest).head?, c = '[' ∨ c = ',' ∨ c = ')' := by
  intro c hc
  cases sizes with
  | nil => exact Or.inr (hrest c hc)
  | cons size more =>
      rw [List.flatMap_cons, dimensionSpelling] at hc
      exact Or.inl (Option.some.inj hc).symm

theorem dimension?_of_endsType {rest : List Char} (hrest : EndsType rest) :
    dimension? rest = none := by
  unfold dimension?
  split
  · simpa using hrest '[' rfl
  · simpa using hrest '[' rfl
  · rfl

/-- Dimensions behind a type are all taken. -/
theorem dimensions_append
    {sizes : List (Option Nat)} (hsizes : ∀ n, some n ∈ sizes → 0 < n)
    {rest : List Char} (hrest : EndsType rest) :
    dimensions (sizes.flatMap dimensionSpelling ++ rest) = (sizes, rest) := by
  induction sizes with
  | nil =>
      rw [dimensions, List.flatMap_nil, List.nil_append]
      split
      · rfl
      · rename_i hsome
        rw [dimension?_of_endsType hrest] at hsome
        cases hsome
  | cons size more ih =>
      have hfirst : dimension? ((size :: more).flatMap dimensionSpelling ++ rest) =
          some (size, more.flatMap dimensionSpelling ++ rest) := by
        rw [dimension?_eq_some_iff, List.flatMap_cons, List.append_assoc]
        refine ⟨rfl, ?_⟩
        rintro n rfl
        exact hsizes n (by simp)
      rw [dimensions]
      split
      · rename_i hnone
        rw [hfirst] at hnone
        cases hnone
      · rename_i size' rest' hsome
        rw [hfirst] at hsome
        cases hsome
        rw [ih fun n hn => hsizes n (by simp [hn])]

/-! ## Basic types -/

/-- The text of a basic type. -/
def basicText (b : BasicType) : List Char :=
  b.base ++ suffixText b.suffix? ++ b.dimensions.flatMap dimensionSpelling

theorem basic?_sound {total : Nat} {cs rest : List Char} {b : BasicType}
    (h : basic? total cs = some (b, rest)) :
    cs = basicText b ++ rest ∧ (∀ s ∈ b.suffix?, s.IsPositive) ∧
      ∀ n, some n ∈ b.dimensions → 0 < n := by
  unfold basic? at h
  split at h
  · cases h
  · rename_i base hne
    have hletters := List.takeWhile_append_dropWhile (p := isLetter) (l := cs)
    cases hsuffix : suffix (cs.dropWhile isLetter) with
    | mk suffix? afterSuffix =>
        obtain ⟨hsplit, hpos⟩ := suffix_sound hsuffix
        have hdimensions := dimensions_sound afterSuffix
        rw [hsuffix] at h
        simp only [Option.some.injEq, Prod.mk.injEq] at h
        obtain ⟨rfl, rfl⟩ := h
        refine ⟨?_, hpos, fun n => pos_of_mem_dimensions⟩
        calc
          cs = cs.takeWhile isLetter ++ cs.dropWhile isLetter := hletters.symm
          _ = cs.takeWhile isLetter ++ (suffixText suffix? ++ afterSuffix) := by
            rw [hsplit]
          _ = cs.takeWhile isLetter ++ (suffixText suffix? ++
              ((dimensions afterSuffix).1.flatMap dimensionSpelling ++
                (dimensions afterSuffix).2)) := by rw [← hdimensions]
          _ = _ := by simp [basicText]

/-- A text that opens no tuple is matched from its basic type on. -/
theorem matchType_of_not_isTuple
    {cs : List Char} (h : isTuple cs = false) (total : Nat) (done : List BasicType)
    (depth : Nat) :
    matchType total done depth cs =
      (basic? total cs).bind fun p => matchAfter total (p.1 :: done) depth p.2 := by
  have hopen : ∀ rest, cs = '(' :: rest → False := by
    rintro rest rfl
    simp [isTuple] at h
  rw [matchType]
  · split
    · rename_i hnone
      rw [hnone]
      rfl
    · rename_i b rest hsome
      rw [hsome]
      rfl
  · exact hopen

/-- Unless a text opens a tuple, a match is a single basic type. -/
theorem match?_of_not_isTuple {cs : List Char} (h : isTuple cs = false) :
    match? cs = (basic? cs.length cs).map fun p => ([p.1], p.2) := by
  rw [match?, matchType_of_not_isTuple h]
  cases basic? cs.length cs with
  | none => rfl
  | some p =>
      rw [Option.bind_some, matchAfter]
      rfl

/-! ## Long numbers -/

theorem le_longestRunFrom (run : Nat) (cs : List Char) :
    run ≤ longestRunFrom run cs := by
  induction cs generalizing run with
  | nil => exact Nat.le_refl run
  | cons c rest ih =>
      rw [longestRunFrom]
      split
      · exact Nat.le_trans (Nat.le_succ run) (ih (run + 1))
      · exact Nat.le_max_left _ _

theorem longestRunFrom_le (run : Nat) (cs : List Char) :
    longestRunFrom run cs ≤ run + cs.length := by
  induction cs generalizing run with
  | nil => exact Nat.le_refl run
  | cons c rest ih =>
      rw [longestRunFrom, List.length_cons]
      split
      · have h := ih (run + 1)
        omega
      · have h := ih 0
        omega

/-- No row of digits in a text is longer than the longest run. -/
theorem length_le_longestRunFrom
    (front back : List Char) {digits : List Char}
    (hdigits : ∀ d ∈ digits, isDigit d = true) (run : Nat) :
    digits.length ≤ longestRunFrom run (front ++ (digits ++ back)) := by
  induction front generalizing run with
  | nil =>
      have hrun : run + digits.length ≤ longestRunFrom run (digits ++ back) := by
        induction digits generalizing run with
        | nil => exact le_longestRunFrom run back
        | cons d rest ih =>
            rw [List.cons_append, longestRunFrom, if_pos (hdigits d (by simp))]
            have h := ih (fun e he => hdigits e (by simp [he])) (run + 1)
            rw [List.length_cons]
            omega
      exact Nat.le_trans (Nat.le_add_left _ run) hrun
  | cons c rest ih =>
      rw [List.cons_append, longestRunFrom]
      split
      · exact ih (run + 1)
      · exact Nat.le_trans (ih 0) (Nat.le_max_right _ _)

/-- A character that is no digit ends a row of digits. -/
theorem longestRunFrom_append_cons
    (run : Nat) (front : List Char) {c : Char} (hc : isDigit c = false) (rest : List Char) :
    longestRunFrom run (front ++ c :: rest) =
      max (longestRunFrom run front) (longestRunFrom 0 rest) := by
  induction front generalizing run with
  | nil => simp [longestRunFrom, hc]
  | cons d front ih =>
      rw [List.cons_append, longestRunFrom, longestRunFrom]
      split
      · exact ih (run + 1)
      · rw [ih 0, Nat.max_assoc]

theorem longestRunFrom_of_forall {digits : List Char}
    (hdigits : ∀ d ∈ digits, isDigit d = true) (run : Nat) :
    longestRunFrom run digits = run + digits.length := by
  induction digits generalizing run with
  | nil => rfl
  | cons d rest ih =>
      rw [longestRunFrom, if_pos (hdigits d (by simp)),
        ih fun e he => hdigits e (by simp [he]), List.length_cons]
      omega

/-- The rows of digits in a text with dimensions behind it are those of the text and
the sizes. -/
theorem longestRunFrom_append_dimensions_le_iff
    {limit : Nat} (front : List Char) (sizes : List (Option Nat)) :
    longestRunFrom 0 (front ++ sizes.flatMap dimensionSpelling) ≤ limit ↔
      longestRunFrom 0 front ≤ limit ∧
        ∀ n, some n ∈ sizes → (decimalNat n).length ≤ limit := by
  induction sizes generalizing front with
  | nil => simp
  | cons size rest ih =>
      have hopen : isDigit '[' = false := by decide
      have hclose : isDigit ']' = false := by decide
      have hdigits : ∀ d ∈ (size.map decimalNat).getD [], isDigit d = true :=
        fun d => isDigit_of_mem_numeral
      have hmove : front ++ (size :: rest).flatMap dimensionSpelling =
          front ++ '[' :: ((size.map decimalNat).getD [] ++
            ']' :: ([] ++ rest.flatMap dimensionSpelling)) := by
        simp [dimensionSpelling]
      rw [hmove, longestRunFrom_append_cons _ _ hopen, longestRunFrom_append_cons _ _ hclose,
        longestRunFrom_of_forall hdigits, Nat.max_le, Nat.max_le, ih]
      cases size with
      | none => simp [longestRunFrom]
      | some n => simp [longestRunFrom]

/-- The longest run is itself a row of digits in the text. -/
theorem longestRunFrom_le_of_forall
    {limit : Nat} {row cs : List Char} (hrow : ∀ d ∈ row, isDigit d = true)
    (h : ∀ digits, digits <:+: row ++ cs → (∀ d ∈ digits, isDigit d = true) →
      digits.length ≤ limit) :
    longestRunFrom row.length cs ≤ limit := by
  induction cs generalizing row with
  | nil => exact h row ⟨[], [], by simp⟩ hrow
  | cons c rest ih =>
      rw [longestRunFrom]
      split
      · rename_i hc
        have hlonger : ∀ d ∈ row ++ [c], isDigit d = true := by
          intro d hd
          rcases List.mem_append.mp hd with hd | hd
          · exact hrow d hd
          · rw [List.mem_singleton.mp hd]
            exact hc
        have hnext := ih hlonger (by simpa using h)
        rwa [List.length_append, List.length_singleton] at hnext
      · have hhere := h row (List.infix_append [] row (c :: rest)) hrow
        have hlater : longestRunFrom 0 rest ≤ limit := by
          apply @ih [] (by simp)
          intro digits hdigits
          apply h digits
          exact hdigits.trans ⟨row ++ [c], [], by simp⟩
        exact Nat.max_le.mpr ⟨hhere, hlater⟩

/-- A text has no long number exactly if no row of digits in it is longer than the
limit. -/
theorem hasLongNumber_eq_false_iff {cs : List Char} :
    hasLongNumber cs = false ↔
      ∀ digits, digits <:+: cs → (∀ d ∈ digits, isDigit d = true) →
        digits.length ≤ digitLimit := by
  rw [hasLongNumber, decide_eq_false_iff_not, Nat.not_lt]
  constructor
  · rintro hlimit digits ⟨front, back, rfl⟩ hdigits
    have hrun := length_le_longestRunFrom front back hdigits 0
    rw [← List.append_assoc] at hrun
    exact Nat.le_trans hrun hlimit
  · intro h
    exact @longestRunFrom_le_of_forall digitLimit [] cs (by simp) h

/-- A text without long numbers gives dimensions that can be shown. -/
theorem isShowable_of_not_hasLongNumber
    {b : BasicType} {n : Nat}
    (hlong : hasLongNumber (basicText b) = false)
    (hn : some n ∈ b.dimensions) :
    Number.isShowable n = true := by
  obtain ⟨before, after, hsplit⟩ := List.append_of_mem hn
  have htext : basicText b =
      (b.base ++ suffixText b.suffix? ++ before.flatMap dimensionSpelling ++
        ['[']) ++ (decimalNat n ++
        (']' :: after.flatMap dimensionSpelling)) := by
    simp [basicText, hsplit, dimensionSpelling]
  rw [hasLongNumber, htext, decide_eq_false_iff_not, Nat.not_lt] at hlong
  rw [← length_decimalNat_le_digitLimit_iff]
  exact Nat.le_trans
    (length_le_longestRunFrom _ _ (fun d => isDigit_of_mem_decimalNat) 0) hlong

end Grammar

end SolidityLayout.Abi
