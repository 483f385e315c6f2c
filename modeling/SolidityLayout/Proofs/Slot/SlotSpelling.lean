import SolidityLayout.Proofs.Abi.ValueSpelling
import SolidityLayout.Proofs.Slot.Arrow

/-!
# Steps of the reader of slot types

A text is read as a mapping exactly when it starts with the word for one and an
opening parenthesis.  The text of a mapping is then cut at its arrow, the key
is read first, and what follows the arrow is read only if the key is no
mapping.
-/

namespace SolidityLayout.SlotType

open Text

/-! ## The start of a mapping -/

/-- A mapping starts with its word, blanks and an opening parenthesis. -/
theorem afterOpening?_eq_some_iff {cs rest : List Char} :
    afterOpening? cs = some rest ↔
      ∃ blanks, (∀ c ∈ blanks, isBlank c = true) ∧
        cs = "mapping".toList ++ blanks ++ '(' :: rest := by
  constructor
  · intro h
    unfold afterOpening? at h
    split at h
    · rename_i hword
      obtain ⟨back, rfl⟩ := List.isPrefixOf_iff_prefix.mp hword
      split at h
      · rename_i tail hdrop
        cases h
        refine ⟨back.takeWhile isBlank, fun c hc => List.mem_takeWhile_imp hc, ?_⟩
        have hsplit := List.takeWhile_append_dropWhile (p := isBlank) (l := back)
        have hback : back.dropWhile isBlank = '(' :: rest := hdrop
        rw [hback] at hsplit
        rw [List.append_assoc, hsplit]
      · cases h
    · cases h
  · rintro ⟨blanks, hblanks, rfl⟩
    have hword : "mapping".toList.isPrefixOf
        ("mapping".toList ++ blanks ++ '(' :: rest) = true := by
      rw [List.isPrefixOf_iff_prefix, List.append_assoc]
      exact List.prefix_append _ _
    have hdrop : ("mapping".toList ++ blanks ++ '(' :: rest).drop 7 =
        blanks ++ '(' :: rest := rfl
    have hopen : isBlank '(' = false := by decide
    rw [afterOpening?, if_pos hword, hdrop,
      List.dropWhile_append_of_pos hblanks,
      List.dropWhile_cons_of_neg (by simp [hopen])]
    rfl

theorem afterOpening?_eq_none_of_not_mem {cs : List Char} (h : '(' ∉ cs) :
    afterOpening? cs = none := by
  cases hopened : afterOpening? cs with
  | none => rfl
  | some rest =>
      obtain ⟨blanks, -, rfl⟩ := afterOpening?_eq_some_iff.mp hopened
      simp at h

/-! ## Steps of the reader -/

theorem ofSpelling_strip (reader : TypeReader) (cs : List Char) :
    ofSpelling reader (strip cs) = ofSpelling reader cs := by
  rw [ofSpelling, ofSpelling.eq_def reader cs, strip_strip]

/-- A text that does not start like a mapping is read as a value. -/
theorem ofSpelling_of_afterOpening?_eq_none
    (reader : TypeReader) {cs : List Char}
    (h : afterOpening? (strip cs) = none) :
    ofSpelling reader cs = (AbiType.ofSpelling reader cs).map ofValue := by
  rw [ofSpelling]
  split
  · rw [AbiType.ofSpelling_strip]
  · rename_i found
    rw [h] at found
    cases found

/-- What becomes of the text behind the arrow once the key has been read. -/
def nestRead (reader : TypeReader) (key : SlotType) (cs : List Char) :
    Except Failure SlotType :=
  if key.isMapping then .error (.layout (.mappingKey .mapping))
  else (ofSpelling reader cs).map (nest key.value)

/-- A text that starts like a mapping has to be closed, and is cut at its
arrow. -/
theorem ofSpelling_of_afterOpening?
    (reader : TypeReader) {cs inside : List Char}
    (hopen : afterOpening? (strip cs) = some inside) :
    ofSpelling reader cs =
      if (strip cs).getLast? ≠ some ')' then
        .error (.layout (.unreadableType (String.ofList (strip cs))
          (some .mappingNotClosed)))
      else
        match topLevelArrow? inside.dropLast with
        | none =>
          .error (.layout (.unreadableType (String.ofList (strip cs))
            (some .mappingWithoutArrow)))
        | some i =>
          (ofSpelling reader (inside.dropLast.take i)).bind fun key =>
            nestRead reader key (inside.dropLast.drop (i + 2)) := by
  rw [ofSpelling]
  split
  · rename_i found
    rw [hopen] at found
    cases found
  · rename_i inside' found
    rw [hopen] at found
    cases found
    split
    · rfl
    · simp only
      cases topLevelArrow? inside.dropLast with
      | none => rfl
      | some i =>
          simp only
          cases ofSpelling reader (inside.dropLast.take i) <;> rfl

/-- The parentheses of a key match in number, and none of its arrows stands
outside them. -/
structure IsEnclosed (cs : List Char) : Prop where
  depth : depth cs = 0
  noArrow : ∀ i, ¬IsTopLevelArrow cs i

theorem IsEnclosed.append_blank {cs : List Char} (h : IsEnclosed cs) :
    IsEnclosed (cs ++ [' ']) where
  depth := by
    rw [depth_append, h.depth]
    rfl
  noArrow := by
    rintro i ⟨hstart, hzero⟩
    rcases Nat.lt_or_ge i cs.length with hi | hi
    · rw [List.take_append_of_le_length (by omega)] at hzero
      rw [List.drop_append_of_le_length (by omega)] at hstart
      refine h.noArrow i ⟨?_, hzero⟩
      -- The blank is not part of an arrow, so the arrow lies in `cs`.
      cases hrest : cs.drop i with
      | nil =>
          rw [List.drop_eq_nil_iff] at hrest
          omega
      | cons c rest =>
          rw [hrest] at hstart
          cases rest with
          | nil => simp at hstart
          | cons d rest => simpa using hstart
    · have hlength := hstart.length_le
      simp only [List.length_cons, List.length_nil, List.length_drop,
        List.length_append] at hlength
      omega

/-- The text of a mapping has no blank at its ends. -/
theorem strip_mapping (blanks body : List Char) :
    strip ("mapping".toList ++ blanks ++ '(' :: (body ++ [')'])) =
      "mapping".toList ++ blanks ++ '(' :: (body ++ [')']) := by
  have hlast : ("mapping".toList ++ blanks ++ '(' :: (body ++ [')'])).getLast? = some ')' := by
    rw [← List.cons_append, ← List.append_assoc, List.getLast?_concat]
  have hhead : ("mapping".toList ++ blanks ++ '(' :: (body ++ [')'])).head? = some 'm' := rfl
  rw [strip_eq_self_iff, hhead, hlast]
  constructor
  · rintro c ⟨⟩
    decide
  · rintro c ⟨⟩
    decide

/-- A mapping is read by reading what stands before its arrow and then what stands
behind it. -/
theorem ofSpelling_mapping
    (reader : TypeReader) {blanks front cs : List Char} (inner : List Char)
    (hblanks : ∀ c ∈ blanks, isBlank c = true) (hfront : IsEnclosed front)
    (hpadded : IsPadded ("mapping".toList ++ blanks ++
      '(' :: (front ++ '=' :: '>' :: inner ++ [')'])) cs) :
    ofSpelling reader cs =
      (ofSpelling reader front).bind fun key => nestRead reader key inner := by
  have hstrip := hpadded.strip_eq.trans (strip_mapping blanks (front ++ '=' :: '>' :: inner))
  have hopen : afterOpening? (strip cs) = some ((front ++ '=' :: '>' :: inner) ++ [')']) := by
    rw [hstrip, afterOpening?_eq_some_iff]
    exact ⟨blanks, hblanks, rfl⟩
  have hclose : (strip cs).getLast? = some ')' := by
    rw [hstrip, ← List.cons_append, ← List.append_assoc, List.getLast?_concat]
  have harrow : topLevelArrow? (front ++ '=' :: '>' :: inner) = some front.length :=
    topLevelArrow?_append hfront.depth hfront.noArrow
  have hdrop : (front ++ '=' :: '>' :: inner).drop (front.length + 2) = inner := by
    rw [List.drop_append]
    simp
  rw [ofSpelling_of_afterOpening? reader hopen, if_neg (not_not_intro hclose),
    List.dropLast_concat, harrow]
  simp only [hdrop, List.take_left]

/-- The text of a mapping from what is spelled `key` to what is spelled
`inner`. -/
def mappingText (key inner : List Char) : List Char :=
  "mapping(".toList ++ key ++ " => ".toList ++ inner ++ [')']

theorem spelling_cons (key : AbiType) (keys : List AbiType) (value : AbiType) :
    (SlotType.mk (key :: keys) value).spelling =
      mappingText key.spelling (SlotType.mk keys value).spelling := rfl

theorem mappingText_eq (key inner : List Char) :
    mappingText key inner =
      "mapping".toList ++ [] ++
        '(' :: ((key ++ [' ']) ++ '=' :: '>' :: ' ' :: inner ++ [')']) := by
  have hword : "mapping(".toList = "mapping".toList ++ ['('] := rfl
  have harrow : " => ".toList = [' ', '=', '>', ' '] := rfl
  change "mapping(".toList ++ key ++ " => ".toList ++ inner ++ [')'] = _
  rw [hword, harrow]
  simp only [List.append_assoc, List.cons_append, List.nil_append]

/-- The text of a mapping is read by reading its key and then its value. -/
theorem ofSpelling_mappingText
    (reader : TypeReader) {key : List Char} (inner : List Char)
    (hkey : IsEnclosed key) :
    ofSpelling reader (mappingText key inner) =
      (ofSpelling reader key).bind fun k => nestRead reader k inner := by
  rw [mappingText_eq,
    ofSpelling_mapping reader _ (by simp) hkey.append_blank (isPadded_self _),
    ← ofSpelling_strip reader (key ++ [' ']), strip_append_blank, ofSpelling_strip]
  simp only [nestRead, ← ofSpelling_strip reader (' ' :: inner),
    strip_blank_cons, ofSpelling_strip]

end SolidityLayout.SlotType
