import SolidityLayout.Proofs.Abi.Catalogue

/-!
# Short names in a text

Short names are replaced word by word, and a word ends where a character stands
that belongs to none.  What a text becomes is therefore known from its words: a
word at its start is replaced by itself, a text without letters stays as it is, and
no number gets longer than the numbers of the full names.
-/

namespace SolidityLayout.Abi

open Number Text

/-! ## Words -/

/-- A word is kept, or it is a short name and its full name takes its place. -/
theorem expandWord_cases (word : List Char) :
    expandWord word = word ∨
      ∃ name, (String.ofList word, name) ∈ aliases ∧ expandWord word = name.toList := by
  rw [expandWord]
  cases hname : aliases.lookup (String.ofList word) with
  | none => exact Or.inl rfl
  | some name =>
      obtain ⟨front, back, heq, -⟩ := List.lookup_eq_some_iff.mp hname
      refine Or.inr ⟨name, ?_, rfl⟩
      rw [heq]
      simp

theorem isWordCharacter_of_mem_expandWord
    {word : List Char} (hword : ∀ c ∈ word, isWordCharacter c = true)
    {c : Char} (hc : c ∈ expandWord word) : isWordCharacter c = true := by
  have hall : ∀ a ∈ aliases, a.2.toList.all isWordCharacter = true := by decide
  rcases expandWord_cases word with hkept | ⟨name, hmem, hname⟩
  · rw [hkept] at hc
    exact hword c hc
  · rw [hname] at hc
    exact List.all_eq_true.mp (hall _ hmem) c hc

theorem expandWord_nil : expandWord [] = [] := rfl

/-! ## Words at the start of a text -/

/-- A row of word characters goes on with the word in progress, which ends where
another character follows. -/
theorem expandFrom_append
    {cs rest : List Char} (hcs : ∀ c ∈ cs, isWordCharacter c = true)
    (hrest : ∀ c ∈ rest.head?, isWordCharacter c = false) (word : List Char) :
    expandFrom word (cs ++ rest) =
      expandWord (word.reverse ++ cs) ++ expandFrom [] rest := by
  induction cs generalizing word with
  | nil =>
      cases rest with
      | nil => simp [expandFrom, expandWord_nil]
      | cons c more =>
          have hc : isWordCharacter c = false := hrest c rfl
          simp [expandFrom, hc, expandWord_nil]
  | cons c cs ih =>
      rw [List.cons_append, expandFrom, if_pos (hcs c (by simp)),
        ih fun d hd => hcs d (by simp [hd])]
      simp

/-- What does not start with a word does not start with one when its short names
have been replaced. -/
theorem isWordCharacter_head?_expandFrom
    {cs : List Char} (hcs : ∀ c ∈ cs.head?, isWordCharacter c = false)
    {c : Char} (hc : c ∈ (expandFrom [] cs).head?) : isWordCharacter c = false := by
  cases cs with
  | nil => cases hc
  | cons d rest =>
      have hd : isWordCharacter d = false := hcs d rfl
      rw [expandFrom, hd] at hc
      simp only [Bool.false_eq_true, if_false, List.reverse_nil, expandWord_nil,
        List.nil_append, List.head?_cons, Option.mem_def, Option.some.injEq] at hc
      exact hc ▸ hd

/-! ## Texts without letters -/

/-- No character of a text is a letter. -/
def HasNoLetter (cs : List Char) : Prop :=
  ∀ c ∈ cs, isLetter c = false

theorem hasNoLetter_append_iff {front back : List Char} :
    HasNoLetter (front ++ back) ↔ HasNoLetter front ∧ HasNoLetter back :=
  List.forall_mem_append

theorem hasNoLetter_cons_iff {c : Char} {cs : List Char} :
    HasNoLetter (c :: cs) ↔ isLetter c = false ∧ HasNoLetter cs :=
  List.forall_mem_cons

/-- Short names and full names all hold letters, so a word is kept if it holds none,
before or after. -/
theorem expandWord_of_hasNoLetter {word : List Char}
    (h : HasNoLetter word ∨ HasNoLetter (expandWord word)) : expandWord word = word := by
  have hshort : ∀ a ∈ aliases, a.1.toList.any isLetter = true := by decide
  have hfull : ∀ a ∈ aliases, a.2.toList.any isLetter = true := by decide
  rcases expandWord_cases word with hkept | ⟨name, hmem, hname⟩
  · exact hkept
  · rcases h with hno | hno
    · obtain ⟨c, hc, hletter⟩ := List.any_eq_true.mp (hshort _ hmem)
      rw [String.toList_ofList] at hc
      rw [hno c hc] at hletter
      cases hletter
    · obtain ⟨c, hc, hletter⟩ := List.any_eq_true.mp (hfull _ hmem)
      rw [hname] at hno
      rw [hno c hc] at hletter
      cases hletter

theorem expandFrom_of_hasNoLetter {word cs : List Char}
    (h : HasNoLetter (word.reverse ++ cs) ∨ HasNoLetter (expandFrom word cs)) :
    expandFrom word cs = word.reverse ++ cs := by
  induction cs generalizing word with
  | nil =>
      rw [List.append_nil] at h ⊢
      exact expandWord_of_hasNoLetter h
  | cons c rest ih =>
      by_cases hc : isWordCharacter c = true
      · rw [expandFrom, if_pos hc] at h ⊢
        have hmove : word.reverse ++ c :: rest = (c :: word).reverse ++ rest := by simp
        rw [hmove] at h ⊢
        exact ih h
      · rw [expandFrom, if_neg hc] at h ⊢
        simp only [hasNoLetter_append_iff, hasNoLetter_cons_iff] at h
        have hword := expandWord_of_hasNoLetter (h.imp And.left And.left)
        have hrest := @ih [] (h.imp (fun h => h.2.2) fun h => h.2.2)
        rw [hword, hrest]
        rfl

/-- A text that becomes a row of word characters and a text without letters is a word
for that row and the same text behind it. -/
theorem exists_expandWord_of_expandAliases_eq
    {cs name rest : List Char} (hname : ∀ c ∈ name, isWordCharacter c = true)
    (hrest : HasNoLetter rest) (hhead : ∀ c ∈ rest.head?, isWordCharacter c = false)
    (h : expandAliases cs = name ++ rest) :
    ∃ word, cs = word ++ rest ∧ expandWord word = name := by
  obtain ⟨word, back, rfl, hword, hback⟩ : ∃ word back, cs = word ++ back ∧
      (∀ c ∈ word, isWordCharacter c = true) ∧
      ∀ c ∈ back.head?, isWordCharacter c = false := by
    refine ⟨cs.takeWhile isWordCharacter, cs.dropWhile isWordCharacter,
      List.takeWhile_append_dropWhile.symm, ?_, ?_⟩
    · intro c hc
      exact List.mem_takeWhile_imp hc
    · intro c hc
      exact eq_false_of_mem_head?_dropWhile hc
  rw [expandAliases, expandFrom_append hword hback, List.reverse_nil, List.nil_append] at h
  have hexpanded : ∀ c ∈ expandWord word, isWordCharacter c = true :=
    fun c hc => isWordCharacter_of_mem_expandWord hword hc
  have hafter : ∀ c ∈ (expandFrom [] back).head?, isWordCharacter c = false :=
    fun c hc => isWordCharacter_head?_expandFrom hback hc
  -- Both sides start with one longest row of word characters.
  have hfull : expandWord word = name := by
    rw [← takeWhile_append_of_head? hexpanded hafter, h,
      takeWhile_append_of_head? hname hhead]
  have hkept : expandFrom [] back = rest := by
    rw [← dropWhile_append_of_head? hexpanded hafter, h,
      dropWhile_append_of_head? hname hhead]
  have hsame : expandFrom [] back = back :=
    @expandFrom_of_hasNoLetter [] back (Or.inr (hkept ▸ hrest))
  exact ⟨word, by rw [← hkept, hsame], hfull⟩

/-! ## Numbers -/

/-- The numbers of the full names have three digits at most, and they are not joined
to other digits because a short name is a whole word. -/
theorem longestRunFrom_expandFrom_le
    {limit : Nat} (hlimit : 3 ≤ limit) {word cs : List Char}
    (h : Grammar.longestRunFrom 0 (word.reverse ++ cs) ≤ limit) :
    Grammar.longestRunFrom 0 (expandFrom word cs) ≤ limit := by
  have hword {word : List Char} (h : Grammar.longestRunFrom 0 word ≤ limit) :
      Grammar.longestRunFrom 0 (expandWord word) ≤ limit := by
    have hall : ∀ a ∈ aliases, Grammar.longestRunFrom 0 a.2.toList ≤ 3 := by decide
    rcases expandWord_cases word with hkept | ⟨name, hmem, hname⟩
    · rwa [hkept]
    · rw [hname]
      exact Nat.le_trans (hall _ hmem) hlimit
  induction cs generalizing word with
  | nil =>
      rw [List.append_nil] at h
      exact hword h
  | cons c rest ih =>
      by_cases hc : isWordCharacter c = true
      · rw [expandFrom, if_pos hc]
        exact ih (by simpa using h)
      · have hdigit : isDigit c = false := by
          rw [← Bool.not_eq_true]
          intro hd
          exact hc (IsNameCharacter.isWordCharacter (Or.inr hd))
        rw [Grammar.longestRunFrom_append_cons _ _ hdigit, Nat.max_le] at h
        rw [expandFrom, if_neg hc, Grammar.longestRunFrom_append_cons _ _ hdigit,
          Nat.max_le]
        exact ⟨hword h.1, @ih [] h.2⟩

theorem hasLongNumber_expandAliases {cs : List Char}
    (h : Grammar.hasLongNumber cs = false) :
    Grammar.hasLongNumber (expandAliases cs) = false := by
  rw [Grammar.hasLongNumber, decide_eq_false_iff_not, Nat.not_lt] at h ⊢
  exact longestRunFrom_expandFrom_le (by decide) h

end SolidityLayout.Abi
