import SolidityLayout.Proofs.Abi.Catalogue

/-!
# Sentences of the grammar of type names

The texts that the grammar matches are given here by rules: letters with a suffix are a
sentence, a row of sentences in parentheses is one, and dimensions may stand behind
either.  The matcher counts open parentheses in place of a recursion, and it matches
exactly the sentences to the end.
-/

namespace SolidityLayout.Abi.Grammar

open Number Text AbiType

/-- The texts that the grammar describes. -/
inductive IsSentence : List Char → Prop
  | basic {base : List Char} {suffix? : Option Suffix} {sizes : List (Option Nat)}
      (hne : base ≠ []) (hbase : ∀ c ∈ base, isLetter c = true)
      (hsuffix : ∀ s ∈ suffix?, s.IsPositive) (hsizes : ∀ n, some n ∈ sizes → 0 < n) :
      IsSentence (base ++ (suffixText suffix? ++ sizes.flatMap dimensionSpelling))
  | tuple {first : List Char} {others : List (List Char)} {sizes : List (Option Nat)}
      (hfirst : IsSentence first) (hothers : ∀ cs ∈ others, IsSentence cs)
      (hsizes : ∀ n, some n ∈ sizes → 0 < n) :
      IsSentence ('(' :: (first ++
        (others.flatMap (',' :: ·) ++ ')' :: sizes.flatMap dimensionSpelling)))

variable {rest : List Char}

/-! ## Basic types -/

/-- What follows a base is no letter. -/
theorem isLetter_head?_append
    (hrest : EndsType rest) (suffix? : Option Suffix) (sizes : List (Option Nat)) :
    ∀ c ∈ (suffixText suffix? ++ (sizes.flatMap dimensionSpelling ++ rest)).head?,
      isLetter c = false := by
  intro c hc
  rw [List.head?_append] at hc
  cases hhead : (suffixText suffix?).head? with
  | none =>
      rw [hhead] at hc
      rcases head?_dimensions_append hrest sizes c hc with rfl | rfl | rfl <;> decide
  | some d =>
      rw [hhead] at hc
      obtain rfl : d = c := Option.some.inj hc
      exact isLetter_eq_false_of_isDigit (isDigit_head_suffixText hhead)

/-- A suffix with dimensions behind it does not go on with the letters of a base. -/
theorem isLetter_head?_suffixText_append
    (suffix? : Option Suffix) (sizes : List (Option Nat)) :
    ∀ c ∈ (suffixText suffix? ++ sizes.flatMap dimensionSpelling).head?,
      isLetter c = false := by
  have hletters := isLetter_head?_append endsType_nil suffix? sizes
  rwa [List.append_nil] at hletters

theorem isTuple_eq_false {cs : List Char} (h : ∀ rest, cs = '(' :: rest → False) :
    isTuple cs = false := by
  unfold isTuple
  split
  · exact (h _ rfl).elim
  · rfl

theorem isTuple_base_append
    {base : List Char} (hne : base ≠ []) (hbase : ∀ c ∈ base, isLetter c = true)
    (rest : List Char) : isTuple (base ++ rest) = false := by
  apply isTuple_eq_false
  intro more heq
  cases base with
  | nil => exact hne rfl
  | cons c base =>
      have hc := hbase c (by simp)
      rw [(List.cons.inj heq).1] at hc
      exact absurd hc (by decide)

/-- A basic type is taken whole if it ends where a type can end. -/
theorem basic?_append
    {base : List Char} {suffix? : Option Suffix} {sizes : List (Option Nat)}
    (hne : base ≠ []) (hbase : ∀ c ∈ base, isLetter c = true)
    (hsuffix : ∀ s ∈ suffix?, s.IsPositive) (hsizes : ∀ n, some n ∈ sizes → 0 < n)
    (hrest : EndsType rest) (total : Nat) :
    let cs := base ++ (suffixText suffix? ++ sizes.flatMap dimensionSpelling)
    basic? total (cs ++ rest) =
      some (⟨total - (cs ++ rest).length, cs, base, suffix?, sizes⟩, rest) := by
  intro cs
  have htext : cs ++ rest =
      base ++ (suffixText suffix? ++ (sizes.flatMap dimensionSpelling ++ rest)) := by
    simp [cs]
  have hletters := isLetter_head?_append hrest suffix? sizes
  have hhead := head?_dimensions_append hrest sizes
  have hwhile : (cs ++ rest).takeWhile isLetter = base := by
    rw [htext]
    exact takeWhile_append_of_head? hbase hletters
  have hdrop : (cs ++ rest).dropWhile isLetter =
      suffixText suffix? ++ (sizes.flatMap dimensionSpelling ++ rest) := by
    rw [htext]
    exact dropWhile_append_of_head? hbase hletters
  have hafter : suffix (suffixText suffix? ++ (sizes.flatMap dimensionSpelling ++ rest)) =
      (suffix?, sizes.flatMap dimensionSpelling ++ rest) := by
    apply suffix_suffixText_append hsuffix
    · intro c hc
      rcases hhead c hc with rfl | rfl | rfl <;> decide
    · intro c hc
      rcases hhead c hc with rfl | rfl | rfl <;> decide
  have htake : (cs ++ rest).take ((cs ++ rest).length - rest.length) = cs := by simp
  rw [basic?, hwhile, hdrop, hafter]
  split
  · exact (hne rfl).elim
  · simp only [dimensions_append hsizes hrest, htake]

theorem base_of_basic? {total : Nat} {cs : List Char} {b : BasicType}
    (h : basic? total cs = some (b, rest)) :
    b.base ≠ [] ∧ ∀ c ∈ b.base, isLetter c = true := by
  unfold basic? at h
  split at h
  · cases h
  · rename_i hne
    simp only [Option.some.injEq, Prod.mk.injEq] at h
    obtain ⟨rfl, -⟩ := h
    exact ⟨hne, fun c hc => List.mem_takeWhile_imp hc⟩

/-! ## Sentences are matched -/

/-- What follows the first type in parentheses can follow a type. -/
theorem endsType_row (others : List (List Char)) (rest : List Char) :
    EndsType (others.flatMap (',' :: ·) ++ ')' :: rest) := by
  cases others with
  | nil =>
      rintro c ⟨⟩
      exact Or.inr rfl
  | cons cs others =>
      rintro c ⟨⟩
      exact Or.inl rfl

/-- Types behind a comma each are matched one after the other, up to the parenthesis that
closes them and the dimensions behind it. -/
theorem exists_matchAfter_row
    {total depth : Nat} {others : List (List Char)} {sizes : List (Option Nat)}
    (hothers : ∀ cs ∈ others, ∀ (done : List BasicType) (rest : List Char), EndsType rest →
      ∃ parts, matchType total done (depth + 1) (cs ++ rest) =
        matchAfter total parts (depth + 1) rest)
    (hsizes : ∀ n, some n ∈ sizes → 0 < n) (hrest : EndsType rest)
    (done : List BasicType) :
    ∃ parts, matchAfter total done (depth + 1)
        (others.flatMap (',' :: ·) ++ ')' :: (sizes.flatMap dimensionSpelling ++ rest)) =
      matchAfter total parts depth rest := by
  induction others generalizing done with
  | nil =>
      refine ⟨done, ?_⟩
      rw [List.flatMap_nil, List.nil_append, matchAfter, dimensions_append hsizes hrest]
  | cons cs others ih =>
      obtain ⟨parts, hparts⟩ := hothers cs (by simp) done _
        (endsType_row others (sizes.flatMap dimensionSpelling ++ rest))
      obtain ⟨all, hall⟩ := ih (fun o ho => hothers o (by simp [ho])) parts
      refine ⟨all, ?_⟩
      rw [List.flatMap_cons, List.cons_append, List.cons_append, List.append_assoc,
        matchAfter, hparts, hall]

/-- A sentence is matched whole inside any number of parentheses. -/
theorem IsSentence.exists_matchType
    {cs : List Char} (h : IsSentence cs) (total depth : Nat) (done : List BasicType)
    (hrest : EndsType rest) :
    ∃ parts, matchType total done depth (cs ++ rest) = matchAfter total parts depth rest := by
  induction h generalizing depth done rest with
  | @basic base suffix? sizes hne hbase hsuffix hsizes =>
      have hbasic := basic?_append hne hbase hsuffix hsizes hrest total
      have htuple : isTuple (base ++ (suffixText suffix? ++ sizes.flatMap dimensionSpelling) ++
          rest) = false := by
        rw [List.append_assoc]
        exact isTuple_base_append hne hbase _
      rw [matchType_of_not_isTuple htuple, hbasic]
      exact ⟨_, rfl⟩
  | @tuple first others sizes _ _ hsizes ihFirst ihOthers =>
      obtain ⟨parts, hparts⟩ := ihFirst (depth + 1) done
        (endsType_row others (sizes.flatMap dimensionSpelling ++ rest))
      obtain ⟨all, hall⟩ := exists_matchAfter_row
        (fun cs hcs done rest hrest => ihOthers cs hcs (depth + 1) done hrest)
        hsizes hrest parts
      refine ⟨all, ?_⟩
      rw [← hall, ← hparts, List.cons_append, matchType]
      simp

/-! ## Only sentences are matched -/

/-- What stands behind a type inside open parentheses: further types behind commas, and
all that closes the parentheses, up to the rest of a text. -/
inductive Closes : Nat → List Char → List Char → Prop
  | done (rest : List Char) : Closes 0 rest rest
  | next {depth : Nat} {cs tail rest : List Char} (hcs : IsSentence cs)
      (htail : Closes (depth + 1) tail rest) : Closes (depth + 1) (',' :: (cs ++ tail)) rest
  | close {depth : Nat} {sizes : List (Option Nat)} {tail rest : List Char}
      (hsizes : ∀ n, some n ∈ sizes → 0 < n) (htail : Closes depth tail rest) :
      Closes (depth + 1) (')' :: (sizes.flatMap dimensionSpelling ++ tail)) rest

/-- Up to the parenthesis that closes the innermost tuple stands a row of types. -/
theorem Closes.exists_row {depth : Nat} {tail : List Char} (h : Closes (depth + 1) tail rest) :
    ∃ (others : List (List Char)) (sizes : List (Option Nat)) (after : List Char),
      (∀ cs ∈ others, IsSentence cs) ∧ (∀ n, some n ∈ sizes → 0 < n) ∧
      tail = others.flatMap (',' :: ·) ++ ')' :: (sizes.flatMap dimensionSpelling ++ after) ∧
      Closes depth after rest := by
  generalize hd : depth + 1 = d at h
  induction h with
  | done => cases hd
  | next hcs _ ih =>
      obtain ⟨others, sizes, after, hothers, hsizes, rfl, hafter⟩ := ih hd
      exact ⟨_ :: others, sizes, after, List.forall_mem_cons.mpr ⟨hcs, hothers⟩, hsizes,
        by simp, hafter⟩
  | close hsizes htail =>
      cases hd
      exact ⟨[], _, _, by simp, hsizes, rfl, htail⟩

/-- What is matched inside open parentheses is a sentence and what closes them, by
induction along the match. -/
theorem exists_isSentence_of_matchType
    {total : Nat} {done parts : List BasicType} {depth : Nat} {cs : List Char}
    (h : matchType total done depth cs = some (parts, rest)) :
    ∃ first tail, cs = first ++ tail ∧ IsSentence first ∧ Closes depth tail rest := by
  revert parts rest
  refine matchType.induct total
    (fun done depth cs => ∀ {rest parts},
      matchType total done depth cs = some (parts, rest) →
        ∃ first tail, cs = first ++ tail ∧ IsSentence first ∧ Closes depth tail rest)
    (fun done depth cs => ∀ {rest parts},
      matchAfter total done depth cs = some (parts, rest) → Closes depth cs rest)
    ?opening ?noBasic ?basic ?outermost ?comma ?closing ?other done depth cs
  case opening =>
    intro done depth inside ih rest parts h
    rw [matchType] at h
    obtain ⟨first, tail, rfl, hfirst, htail⟩ := ih h
    obtain ⟨others, sizes, after, hothers, hsizes, rfl, hafter⟩ := htail.exists_row
    exact ⟨_, after, by simp, .tuple hfirst hothers hsizes, hafter⟩
  case noBasic =>
    intro done depth cs hopen hnone rest parts h
    rw [matchType_of_not_isTuple (isTuple_eq_false hopen), hnone] at h
    cases h
  case basic =>
    intro done depth cs hopen b after hbasic ih rest parts h
    rw [matchType_of_not_isTuple (isTuple_eq_false hopen), hbasic] at h
    obtain ⟨hne, hbase⟩ := base_of_basic? hbasic
    obtain ⟨rfl, hsuffix, hsizes⟩ := basic?_sound hbasic
    refine ⟨_, after, rfl, ?_, ih h⟩
    rw [basicText, List.append_assoc]
    exact .basic hne hbase hsuffix hsizes
  case outermost =>
    intro done cs rest parts h
    rw [matchAfter] at h
    cases h
    exact .done cs
  case comma =>
    intro done depth after ih rest parts h
    rw [matchAfter] at h
    obtain ⟨first, tail, rfl, hfirst, htail⟩ := ih h
    exact .next hfirst htail
  case closing =>
    intro done depth after ih rest parts h
    rw [matchAfter] at h
    have hsizes : ∀ n, some n ∈ (dimensions after).1 → 0 < n :=
      fun n => pos_of_mem_dimensions
    have hclose := Closes.close hsizes (ih h)
    rwa [← dimensions_sound] at hclose
  case other =>
    intro done depth cs hzero hcomma hparen rest parts h
    rw [matchAfter] at h
    · cases h
    · exact hzero
    · exact hcomma
    · exact hparen

/-- The grammar matches exactly its sentences to the end. -/
theorem exists_match?_eq_some_nil_iff {cs : List Char} :
    (∃ parts, match? cs = some (parts, [])) ↔ IsSentence cs := by
  constructor
  · rintro ⟨parts, h⟩
    obtain ⟨first, tail, rfl, hfirst, htail⟩ := exists_isSentence_of_matchType h
    cases htail
    rwa [List.append_nil]
  · intro h
    obtain ⟨parts, hparts⟩ := h.exists_matchType cs.length 0 [] endsType_nil
    rw [List.append_nil, matchAfter] at hparts
    exact ⟨_, hparts⟩

end SolidityLayout.Abi.Grammar
