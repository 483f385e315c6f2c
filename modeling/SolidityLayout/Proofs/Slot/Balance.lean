import SolidityLayout.Proofs.Slot.SlotSpelling

/-!
# Balanced texts

In a balanced text every closing parenthesis closes one that was opened before
it, and none stays open.  Whatever stands in the parentheses of a mapping lies
deeper than the mapping itself, so that no arrow in it can be taken for the
arrow of a mapping around it.
-/

namespace SolidityLayout.SlotType

/-- No more parentheses are closed than opened at any point of a text, and all
of them are closed at its end. -/
structure IsBalanced (cs : List Char) : Prop where
  depth : depth cs = 0
  depth_take : ∀ i, 0 ≤ SlotType.depth (cs.take i)

theorem isBalanced_of_not_mem {cs : List Char} (hopen : '(' ∉ cs) (hclose : ')' ∉ cs) :
    IsBalanced cs where
  depth := depth_eq_zero_of_not_mem hopen hclose
  depth_take i := by
    have htake : SlotType.depth (cs.take i) = 0 :=
      depth_eq_zero_of_not_mem (fun h => hopen (List.mem_of_mem_take h))
        (fun h => hclose (List.mem_of_mem_take h))
    exact Int.le_of_eq htake.symm

theorem IsBalanced.append {front back : List Char}
    (hfront : IsBalanced front) (hback : IsBalanced back) :
    IsBalanced (front ++ back) where
  depth := by
    rw [depth_append, hfront.depth, hback.depth]
    rfl
  depth_take i := by
    rw [List.take_append, depth_append]
    exact Int.add_nonneg (hfront.depth_take i) (hback.depth_take _)

/-- The depth behind a part of a text in parentheses; only the whole of it is
back at depth zero. -/
theorem depth_take_parenthesized {body : List Char} (hbody : IsBalanced body) (i : Nat) :
    0 ≤ depth (('(' :: (body ++ [')'])).take i) ∧
      (depth (('(' :: (body ++ [')'])).take i) = 0 →
        i = 0 ∨ body.length + 2 ≤ i) := by
  cases i with
  | zero => simp
  | succ i =>
      have hinside := hbody.depth_take i
      rw [List.take_succ_cons, depth_cons, depth_opening, List.take_append,
        depth_append]
      rcases Nat.lt_or_ge body.length i with hi | hi
      · have hwhole : body.take i = body := List.take_of_length_le (by omega)
        have hlast : [')'].take (i - body.length) = [')'] :=
          List.take_of_length_le (by simp; omega)
        rw [hwhole, hlast, hbody.depth, depth_closing]
        omega
      · have hnone : i - body.length = 0 := by omega
        rw [hnone, List.take_zero, depth_nil]
        omega

theorem IsBalanced.parenthesize {body : List Char} (hbody : IsBalanced body) :
    IsBalanced ('(' :: (body ++ [')'])) where
  depth := by
    rw [depth_cons, depth_append, hbody.depth]
    rfl
  depth_take i := (depth_take_parenthesized hbody i).1

/-- No arrow stands outside the parentheses of a text that is a word without
arrows before a text in parentheses. -/
theorem isEnclosed_parenthesized {word body : List Char}
    (hword : IsBalanced word) (hequals : '=' ∉ word) (hbody : IsBalanced body) :
    IsEnclosed (word ++ '(' :: (body ++ [')'])) where
  depth := (hword.append hbody.parenthesize).depth
  noArrow := by
    rintro i ⟨harrow, hdepth⟩
    rcases Nat.lt_or_ge i word.length with hi | hi
    · -- The arrow would start inside the word.
      rw [List.drop_append_of_le_length (by omega), List.drop_eq_getElem_cons hi,
        List.cons_append, List.cons_prefix_cons] at harrow
      apply hequals
      rw [harrow.1]
      exact List.getElem_mem hi
    · rw [List.take_append, List.take_of_length_le hi, depth_append, hword.depth,
        Int.zero_add] at hdepth
      rw [List.drop_append, List.drop_of_length_le hi, List.nil_append] at harrow
      rcases (depth_take_parenthesized hbody _).2 hdepth with hstart | hend
      · rw [hstart] at harrow
        simp at harrow
      · have hnil : ('(' :: (body ++ [')'])).drop (i - word.length) = [] :=
          List.drop_of_length_le <| by
            simp only [List.length_cons, List.length_append, List.length_nil]
            omega
        rw [hnil] at harrow
        simp at harrow

/-- What stands in the parentheses of a mapping is balanced. -/
theorem isBalanced_mappingBody {key inner : List Char}
    (hkey : IsBalanced key) (hinner : IsBalanced inner) :
    IsBalanced ((key ++ [' ']) ++ '=' :: '>' :: ' ' :: inner) := by
  have hblank : IsBalanced [' '] := isBalanced_of_not_mem (by decide) (by decide)
  have harrow : IsBalanced ['=', '>', ' '] :=
    isBalanced_of_not_mem (by decide) (by decide)
  exact (hkey.append hblank).append (harrow.append hinner)

/-- The text of a mapping is balanced and can itself stand as the key of a
mapping, as far as its arrows go. -/
theorem isBalanced_mappingText {key inner : List Char}
    (hkey : IsBalanced key) (hinner : IsBalanced inner) :
    IsBalanced (mappingText key inner) ∧ IsEnclosed (mappingText key inner) := by
  have hword : IsBalanced ("mapping".toList ++ []) :=
    isBalanced_of_not_mem (by decide) (by decide)
  have hbody := isBalanced_mappingBody hkey hinner
  rw [mappingText_eq]
  exact ⟨hword.append hbody.parenthesize,
    isEnclosed_parenthesized hword (by decide) hbody⟩

end SolidityLayout.SlotType
