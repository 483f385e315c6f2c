import Mathlib.Data.List.Basic
import Mathlib.Data.Nat.Find
import SolidityLayout.Slot.Spelling

/-!
# The arrow of a mapping

The reader of slot types looks for the first arrow outside all parentheses by
counting parentheses as it goes.  Here the count is replaced by the depth of
the text passed so far, which gives the position that is found a description
of its own: the least one at which an arrow stands at depth zero.
-/

namespace SolidityLayout.SlotType

variable {cs front back : List Char}

/-! ## Depth -/

/-- The number of parentheses that a text opens less the number it closes. -/
def depth (cs : List Char) : Int :=
  (cs.count '(' : Int) - cs.count ')'

@[simp] theorem depth_nil : depth [] = 0 := rfl

theorem depth_append (front back : List Char) :
    depth (front ++ back) = depth front + depth back := by
  simp only [depth, List.count_append, Int.natCast_add]
  omega

theorem depth_cons (c : Char) (rest : List Char) :
    depth (c :: rest) = depth [c] + depth rest :=
  depth_append [c] rest

@[simp] theorem depth_opening : depth ['('] = 1 := rfl

@[simp] theorem depth_closing : depth [')'] = -1 := rfl

theorem depth_singleton {c : Char} (hopen : c ≠ '(') (hclose : c ≠ ')') :
    depth [c] = 0 := by
  simp [depth, hopen, hclose]

theorem depth_eq_zero_of_not_mem (hopen : '(' ∉ cs) (hclose : ')' ∉ cs) :
    depth cs = 0 := by
  simp [depth, List.count_eq_zero_of_not_mem hopen,
    List.count_eq_zero_of_not_mem hclose]

/-! ## Arrows at a depth -/

/-- An arrow stands at a position, and the depth there is zero if the text
starts at the given depth. -/
def IsArrowAt (start : Int) (cs : List Char) (i : Nat) : Prop :=
  ['=', '>'] <+: cs.drop i ∧ start + depth (cs.take i) = 0

instance (start : Int) (cs : List Char) (i : Nat) :
    Decidable (IsArrowAt start cs i) :=
  inferInstanceAs (Decidable (_ ∧ _))

theorem isArrowAt_zero_iff {start : Int} :
    IsArrowAt start cs 0 ↔ ['=', '>'] <+: cs ∧ start = 0 := by
  simp [IsArrowAt]

theorem isArrowAt_succ_iff {start : Int} {c : Char} {i : Nat} :
    IsArrowAt start (c :: cs) (i + 1) ↔ IsArrowAt (start + depth [c]) cs i := by
  rw [IsArrowAt, IsArrowAt, List.drop_succ_cons, List.take_succ_cons,
    depth_cons, Int.add_assoc]

theorem not_isArrowAt_nil {start : Int} {i : Nat} : ¬IsArrowAt start [] i := by
  rintro ⟨harrow, -⟩
  simp at harrow

/-- One step of the search: an arrow at depth zero ends it, and any other
character is passed with the depth adjusted. -/
theorem arrowFrom?_cons (start : Int) (c : Char) (rest : List Char) :
    arrowFrom? start (c :: rest) =
      if IsArrowAt start (c :: rest) 0 then some 0
      else (arrowFrom? (start + depth [c]) rest).map (· + 1) := by
  rw [arrowFrom?]
  by_cases hopen : c = '('
  · subst hopen
    simp [isArrowAt_zero_iff]
  · by_cases hclose : c = ')'
    · subst hclose
      simp [isArrowAt_zero_iff, Int.sub_eq_add_neg]
    · rw [if_neg hopen, if_neg hclose, depth_singleton hopen hclose, Int.add_zero]
      simp only [isArrowAt_zero_iff, List.isPrefixOf_iff_prefix,
        and_comm]

/-- The search finds the least position of an arrow at depth zero. -/
theorem arrowFrom?_eq_some_iff {start : Int} {i : Nat} :
    arrowFrom? start cs = some i ↔
      IsArrowAt start cs i ∧ ∀ j < i, ¬IsArrowAt start cs j := by
  induction cs generalizing start i with
  | nil => simp [arrowFrom?, not_isArrowAt_nil]
  | cons c rest ih =>
      rw [arrowFrom?_cons]
      split
      · rename_i harrow
        constructor
        · intro h
          cases h
          exact ⟨harrow, by simp⟩
        · rintro ⟨-, hleast⟩
          cases i with
          | zero => rfl
          | succ i => exact (hleast 0 (Nat.succ_pos i) harrow).elim
      · rename_i harrow
        cases i with
        | zero => simp [harrow]
        | succ i =>
            rw [Option.map_eq_some_iff]
            simp only [Nat.add_right_cancel_iff, exists_eq_right, ih,
              isArrowAt_succ_iff]
            constructor
            · rintro ⟨hfound, hleast⟩
              refine ⟨hfound, ?_⟩
              intro j hj
              cases j with
              | zero => exact harrow
              | succ j =>
                  rw [isArrowAt_succ_iff]
                  exact hleast j (by omega)
            · rintro ⟨hfound, hleast⟩
              refine ⟨hfound, ?_⟩
              intro j hj
              have h := hleast (j + 1) (by omega)
              rwa [isArrowAt_succ_iff] at h

/-! ## Arrows outside all parentheses -/

/-- An arrow at depth zero outside all parentheses of a text. -/
def IsTopLevelArrow (cs : List Char) (i : Nat) : Prop :=
  ['=', '>'] <+: cs.drop i ∧ depth (cs.take i) = 0

instance (cs : List Char) (i : Nat) : Decidable (IsTopLevelArrow cs i) :=
  inferInstanceAs (Decidable (_ ∧ _))

theorem isArrowAt_zero_depth_iff {i : Nat} :
    IsArrowAt 0 cs i ↔ IsTopLevelArrow cs i := by
  rw [IsArrowAt, IsTopLevelArrow, Int.zero_add]

theorem topLevelArrow?_eq_some_iff {i : Nat} :
    topLevelArrow? cs = some i ↔
      IsTopLevelArrow cs i ∧ ∀ j < i, ¬IsTopLevelArrow cs j := by
  rw [topLevelArrow?, arrowFrom?_eq_some_iff]
  simp only [isArrowAt_zero_depth_iff]

theorem topLevelArrow?_eq_none_iff :
    topLevelArrow? cs = none ↔ ∀ i, ¬IsTopLevelArrow cs i := by
  constructor
  · intro hnone i harrow
    -- Wherever an arrow stands outside all parentheses, a first one does.
    have hexists : ∃ i, IsTopLevelArrow cs i := ⟨i, harrow⟩
    have hfound : topLevelArrow? cs = some (Nat.find hexists) :=
      topLevelArrow?_eq_some_iff.mpr
        ⟨Nat.find_spec hexists, fun _ hj => Nat.find_min hexists hj⟩
    rw [hnone] at hfound
    cases hfound
  · intro hno
    cases hfound : topLevelArrow? cs with
    | none => rfl
    | some i => exact (hno i (topLevelArrow?_eq_some_iff.mp hfound).1).elim

/-- The arrow that is found behind a text with as many opening as closing
parentheses and no arrow of its own outside them. -/
theorem topLevelArrow?_append
    (hdepth : depth front = 0) (hno : ∀ i, ¬IsTopLevelArrow front i) :
    topLevelArrow? (front ++ '=' :: '>' :: back) = some front.length := by
  refine topLevelArrow?_eq_some_iff.mpr ⟨⟨by simp, by simpa using hdepth⟩, ?_⟩
  rintro j hj ⟨hstart, hzero⟩
  rw [List.take_append_of_le_length (by omega)] at hzero
  rw [List.drop_append_of_le_length (by omega)] at hstart
  refine hno j ⟨?_, hzero⟩
  -- An arrow cannot reach over the end of `front`, which an `=` follows.
  cases hrest : front.drop j with
  | nil =>
      rw [List.drop_eq_nil_iff] at hrest
      omega
  | cons c rest =>
      rw [hrest] at hstart
      cases rest with
      | nil => simp at hstart
      | cons d rest => simpa using hstart

/-- Of the arrows at which a text has opened as many parentheses as it has closed, the
search finds the first one, and nothing only if there is none.  A key that holds no such
arrow and closes what it opens is therefore cut off at the arrow behind it, whatever
follows. -/
theorem topLevelArrow?_outcome :
    (∀ cs i, topLevelArrow? cs = some i ↔
      IsTopLevelArrow cs i ∧ ∀ j < i, ¬IsTopLevelArrow cs j) ∧
      (∀ cs, topLevelArrow? cs = none ↔ ∀ i, ¬IsTopLevelArrow cs i) ∧
      ∀ key inner, key.count '(' = key.count ')' → (∀ i, ¬IsTopLevelArrow key i) →
        topLevelArrow? (key ++ '=' :: '>' :: inner) = some key.length := by
  refine ⟨fun _ _ => topLevelArrow?_eq_some_iff, fun _ => topLevelArrow?_eq_none_iff, ?_⟩
  intro key inner hcount hno
  apply topLevelArrow?_append _ hno
  rw [depth, hcount, Int.sub_self]

/-- The arrow inside the parentheses of a key is passed over, and so is one behind a
parenthesis that was never opened. -/
theorem topLevelArrow?_outcome_nestedKey :
    topLevelArrow? "mapping(uint8 => bool) => a=>b".toList = some 23 ∧
      topLevelArrow? ")=>(=>".toList = some 4 := by
  obtain ⟨hfirst, hnone, hkey⟩ := topLevelArrow?_outcome
  have hno : ∀ i, ¬IsTopLevelArrow "mapping(uint8 => bool) ".toList i :=
    (hnone _).mp (by decide)
  refine ⟨hkey "mapping(uint8 => bool) ".toList " a=>b".toList (by decide) hno, ?_⟩
  exact (hfirst _ 4).mpr (by decide)

end SolidityLayout.SlotType
