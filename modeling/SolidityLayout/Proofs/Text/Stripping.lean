import Mathlib.Data.List.DropRight
import Mathlib.Data.List.TakeWhile
import SolidityLayout.Text.Blank

/-!
# Stripped texts

A text is stripped when it has no blank at either end.  Taking the blanks off
yields a stripped text, and only the ends decide whether a text is stripped.
The readers strip at every level, so what they read back from a printed text
is controlled by the lemmas here.
-/

namespace SolidityLayout.Text

variable {cs front back : List Char}

/-! ## Rows of characters -/

theorem takeWhile_append_of_head? {p : Char → Bool}
    (hfront : ∀ c ∈ front, p c = true) (hback : ∀ c ∈ back.head?, p c = false) :
    (front ++ back).takeWhile p = front := by
  rw [List.takeWhile_append_of_pos hfront]
  cases back with
  | nil => simp
  | cons c rest => simp [hback c rfl]

theorem dropWhile_append_of_head? {p : Char → Bool}
    (hfront : ∀ c ∈ front, p c = true) (hback : ∀ c ∈ back.head?, p c = false) :
    (front ++ back).dropWhile p = back := by
  rw [List.dropWhile_append_of_pos hfront]
  cases back with
  | nil => rfl
  | cons c rest => simp [hback c rfl]

/-- The first character behind a longest row of a class is not of that class. -/
theorem eq_false_of_mem_head?_dropWhile {p : Char → Bool} {c : Char}
    (hc : c ∈ (cs.dropWhile p).head?) : p c = false := by
  have hnot := List.head?_dropWhile_not p cs
  rw [Option.mem_def.mp hc] at hnot
  simpa using hnot

/-! ## Both ends -/

theorem trim_eq_rdropWhile (p : Char → Bool) (cs : List Char) :
    trim p cs = (cs.dropWhile p).rdropWhile p := rfl

theorem strip_eq_rdropWhile (cs : List Char) :
    strip cs = (cs.dropWhile isBlank).rdropWhile isBlank := rfl

theorem dropWhile_eq_self_iff_head? {p : Char → Bool} :
    cs.dropWhile p = cs ↔ ∀ c ∈ cs.head?, p c = false := by
  cases cs with
  | nil => simp
  | cons c rest => simp [List.dropWhile_eq_self_iff]

theorem rdropWhile_eq_self_iff_getLast? {p : Char → Bool} :
    cs.rdropWhile p = cs ↔ ∀ c ∈ cs.getLast?, p c = false := by
  rcases List.eq_nil_or_concat cs with rfl | ⟨rest, c, rfl⟩
  · simp
  · simp [List.rdropWhile_eq_self_iff]

/-- Nothing is taken off a text exactly when neither its first nor its last
character is of the class. -/
theorem trim_eq_self_iff {p : Char → Bool} :
    trim p cs = cs ↔
      (∀ c ∈ cs.head?, p c = false) ∧ ∀ c ∈ cs.getLast?, p c = false := by
  constructor
  · intro h
    have hfront : cs.dropWhile p = cs := by
      apply (List.dropWhile_sublist p).eq_of_length_le
      calc
        cs.length = (trim p cs).length := by rw [h]
        _ ≤ (cs.dropWhile p).length := (List.rdropWhile_prefix p _).length_le
    have hback : cs.rdropWhile p = cs := by
      rw [trim_eq_rdropWhile, hfront] at h
      exact h
    exact ⟨dropWhile_eq_self_iff_head?.mp hfront,
      rdropWhile_eq_self_iff_getLast?.mp hback⟩
  · rintro ⟨hfront, hback⟩
    rw [trim_eq_rdropWhile, dropWhile_eq_self_iff_head?.mpr hfront]
    exact rdropWhile_eq_self_iff_getLast?.mpr hback

theorem strip_eq_self_iff :
    strip cs = cs ↔
      (∀ c ∈ cs.head?, isBlank c = false) ∧
        ∀ c ∈ cs.getLast?, isBlank c = false :=
  trim_eq_self_iff

theorem trim_eq_self_of_forall {p : Char → Bool} (h : ∀ c ∈ cs, p c = false) :
    trim p cs = cs :=
  trim_eq_self_iff.mpr
    ⟨fun c hc => h c (List.mem_of_mem_head? hc),
      fun c hc => h c (List.mem_of_mem_getLast? hc)⟩

/-- The visible ASCII characters are not blank. -/
theorem isBlank_eq_false_of_toNat {c : Char}
    (hlow : 33 ≤ c.toNat) (hhigh : c.toNat ≤ 126) : isBlank c = false := by
  simp only [isBlank, Bool.or_eq_false_iff, Bool.and_eq_false_iff,
    decide_eq_false_iff_not, beq_eq_false_iff_ne]
  omega

/-- Characters of the class around a text do not change what is left of it. -/
theorem trim_append_append {p : Char → Bool}
    (hfront : ∀ c ∈ front, p c = true) (hback : ∀ c ∈ back, p c = true) :
    trim p (front ++ cs ++ back) = trim p cs := by
  rw [trim_eq_rdropWhile, trim_eq_rdropWhile, List.append_assoc,
    List.dropWhile_append_of_pos hfront, List.dropWhile_append]
  split
  · rename_i hempty
    have hnil : back.dropWhile p = [] := by simpa using hback
    rw [List.isEmpty_iff.mp hempty, hnil]
  · have hback' : ∀ c ∈ back.reverse, p c = true := by simpa using hback
    simp only [List.rdropWhile, List.reverse_append,
      List.dropWhile_append_of_pos hback']

/-- Blanks around a text do not change what is left of it. -/
theorem strip_append_append
    (hfront : ∀ c ∈ front, isBlank c = true)
    (hback : ∀ c ∈ back, isBlank c = true) :
    strip (front ++ cs ++ back) = strip cs :=
  trim_append_append hfront hback

/-- A text is what is left of it between the characters taken off its ends. -/
theorem exists_eq_append_trim (p : Char → Bool) (cs : List Char) :
    ∃ front back, cs = front ++ (trim p cs ++ back) ∧
      (∀ c ∈ front, p c = true) ∧ ∀ c ∈ back, p c = true := by
  refine ⟨cs.takeWhile p, (cs.dropWhile p).rtakeWhile p, ?_,
    fun c hc => List.mem_takeWhile_imp hc, fun c hc => List.mem_rtakeWhile_imp hc⟩
  have hback : (cs.dropWhile p).rdropWhile p ++ (cs.dropWhile p).rtakeWhile p =
      cs.dropWhile p := by
    rw [List.rdropWhile, List.rtakeWhile, ← List.reverse_append,
      List.takeWhile_append_dropWhile, List.reverse_reverse]
  rw [trim_eq_rdropWhile, hback, List.takeWhile_append_dropWhile]

/-- The texts that are a given text with blanks at either end. -/
inductive IsPadded (cs : List Char) : List Char → Prop
  | intro {before after : List Char} (hbefore : ∀ c ∈ before, isBlank c = true)
      (hafter : ∀ c ∈ after, isBlank c = true) : IsPadded cs (before ++ cs ++ after)

theorem isPadded_self (cs : List Char) : IsPadded cs cs := by
  have h : IsPadded cs ([] ++ cs ++ []) := .intro (by simp) (by simp)
  rwa [List.nil_append, List.append_nil] at h

theorem isPadded_strip (cs : List Char) : IsPadded (strip cs) cs := by
  obtain ⟨before, after, hsplit, hbefore, hafter⟩ := exists_eq_append_trim isBlank cs
  have hpadded : IsPadded (strip cs) (before ++ strip cs ++ after) := .intro hbefore hafter
  rwa [List.append_assoc, strip, ← hsplit] at hpadded

theorem IsPadded.strip_eq {padded : List Char} (h : IsPadded cs padded) :
    strip padded = strip cs := by
  obtain ⟨hbefore, hafter⟩ := h
  exact strip_append_append hbefore hafter

theorem isBlank_of_mem_space {c : Char} (hc : c ∈ [' ']) : isBlank c = true := by
  rw [List.mem_singleton.mp hc]
  rfl

theorem strip_append_blank (cs : List Char) : strip (cs ++ [' ']) = strip cs := by
  have h : strip ([] ++ cs ++ [' ']) = strip cs :=
    strip_append_append (by simp) fun _ => isBlank_of_mem_space
  simpa using h

theorem strip_blank_cons (cs : List Char) : strip (' ' :: cs) = strip cs := by
  have h : strip ([' '] ++ cs ++ []) = strip cs :=
    strip_append_append (fun _ => isBlank_of_mem_space) (by simp)
  simpa using h

@[simp] theorem strip_strip (cs : List Char) : strip (strip cs) = strip cs := by
  have hprefix : strip cs <+: cs.dropWhile isBlank :=
    List.rdropWhile_prefix isBlank _
  rw [strip_eq_self_iff]
  constructor
  · intro c hc
    have hhead : c ∈ (cs.dropWhile isBlank).head? := by
      obtain ⟨rest, hrest⟩ := hprefix
      rw [← hrest, List.head?_append]
      simp [Option.mem_def.mp hc]
    exact dropWhile_eq_self_iff_head?.mp
      (List.dropWhile_idempotent _ _) c hhead
  · exact rdropWhile_eq_self_iff_getLast?.mp
      (List.rdropWhile_idempotent _ _)

/-- The start of a stripped text has blanks only at its end. -/
theorem exists_eq_strip_append (h : strip (front ++ back) = front ++ back) :
    ∃ blanks, front = strip front ++ blanks ∧ ∀ c ∈ blanks, isBlank c = true := by
  obtain ⟨before, after, hsplit, hbefore, hafter⟩ := exists_eq_append_trim isBlank front
  cases before with
  | nil => exact ⟨after, hsplit, hafter⟩
  | cons c rest =>
      have hfirst := (strip_eq_self_iff.mp h).1 c (by rw [hsplit]; rfl)
      rw [hbefore c (by simp)] at hfirst
      cases hfirst

/-- Stripped texts side by side are stripped. -/
theorem strip_append
    (hfront : strip front = front) (hback : strip back = back) :
    strip (front ++ back) = front ++ back := by
  rw [strip_eq_self_iff] at hfront hback ⊢
  rw [List.head?_append, List.getLast?_append]
  constructor
  · intro c hc
    cases front with
    | nil => exact hback.1 c (by simpa using hc)
    | cons d rest => exact hfront.1 c (by simpa using hc)
  · intro c hc
    rcases List.eq_nil_or_concat back with rfl | ⟨rest, d, rfl⟩
    · exact hfront.2 c (by simpa using hc)
    · exact hback.2 c (by simpa using hc)

/-- In front of a stripped text that is not empty, blanks are taken off the start only. -/
theorem strip_append_of_ne_nil (hne : back ≠ []) (hback : strip back = back) :
    strip (front ++ back) = front.dropWhile isBlank ++ back := by
  rw [strip_eq_self_iff] at hback
  have hdrop : (front ++ back).dropWhile isBlank = front.dropWhile isBlank ++ back := by
    rw [List.dropWhile_append]
    split
    · rename_i hempty
      rw [List.isEmpty_iff.mp hempty, List.nil_append]
      exact dropWhile_eq_self_iff_head?.mpr hback.1
    · rfl
  rw [strip_eq_rdropWhile, hdrop, rdropWhile_eq_self_iff_getLast?,
    List.getLast?_append_of_ne_nil _ hne]
  exact hback.2

theorem strip_dropWhile (cs : List Char) : strip (cs.dropWhile isBlank) = strip cs := by
  have hblanks : ∀ c ∈ cs.takeWhile isBlank, isBlank c = true :=
    fun c hc => List.mem_takeWhile_imp hc
  have h : strip (cs.takeWhile isBlank ++ cs.dropWhile isBlank ++ []) =
      strip (cs.dropWhile isBlank) := strip_append_append hblanks (by simp)
  rw [← h, List.append_nil, List.takeWhile_append_dropWhile]

/-! ## The first word -/

/-- The first word of a text that starts with a name and goes on with a
blank. -/
theorem firstWord?_append {name rest : List Char} (hne : name ≠ [])
    (hname : ∀ c ∈ name, isBlank c = false)
    (hrest : ∀ c ∈ rest.head?, isBlank c = true) :
    firstWord? (name ++ rest) = some name := by
  have hdrop : (name ++ rest).dropWhile isBlank = name ++ rest := by
    rw [dropWhile_eq_self_iff_head?]
    intro c hc
    cases name with
    | nil => exact (hne rfl).elim
    | cons d more =>
        cases hc
        exact hname _ (by simp)
  have htake : (name ++ rest).takeWhile (!isBlank ·) = name :=
    takeWhile_append_of_head? (by simpa using hname) (by simpa using hrest)
  rw [firstWord?, hdrop, htake]
  split
  · exact (hne rfl).elim
  · rfl

end SolidityLayout.Text
