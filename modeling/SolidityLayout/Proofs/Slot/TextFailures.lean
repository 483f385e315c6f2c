import SolidityLayout.Proofs.Slot.SlotLanguage

/-!
# Failures of reading types

A text that is not the text of a type is reported as one that cannot be read, or as a
mapping in the place of a key.  There are two more ways in which reading a text can fail:
a type name that matches the grammar has a number beyond the digit limit, or a dimension
behind the text of a value type does.  The texts for which that happens are described
here, for the readers of type names, of value types and of slot types.
-/

namespace SolidityLayout

open Text Number Attempt

namespace Failure

/-- The failure reports a number beyond the digit limit. -/
def IsLong (failure : Failure) : Prop :=
  failure = .longNumber ∨ failure = .longTypeNumber

/-- The failure reports a text that cannot be read. -/
def IsUnreadableText (failure : Failure) : Prop :=
  ∃ text reason, failure = .layout (.unreadableType text (some reason))

/-- The failure reports a mapping in the place of a key. -/
def IsMappingKey (failure : Failure) : Prop :=
  failure = .layout (.mappingKey .mapping)

end Failure

/-- The text holds a row of decimal digits, of any script, beyond the digit limit. -/
def HasLongRow (cs : List Char) : Prop :=
  ∃ row, row <:+: cs ∧ (∀ d ∈ row, isDecimalDigit d = true) ∧ digitLimit < row.length

theorem HasLongRow.of_isInfix {part cs : List Char} (h : HasLongRow part) (hpart : part <:+: cs) :
    HasLongRow cs := by
  obtain ⟨row, hrow, hdigits, hlong⟩ := h
  exact ⟨row, hrow.trans hpart, hdigits, hlong⟩

theorem Text.IsPadded.isInfix {cs padded : List Char} (h : IsPadded cs padded) :
    cs <:+: padded := by
  obtain ⟨-, -⟩ := h
  exact List.infix_append _ _ _

/-! ## Type names -/

namespace Abi

/-- Reading a type name escapes with a failure: it matches the grammar, with its short
names replaced, and has a number beyond the digit limit. -/
inductive Escapes (name : List Char) : Failure → Prop
  | number (hfirst : unknownFirstWord? name = none)
      (hsentence : Grammar.IsSentence (expandAliases name))
      (hlong : Grammar.hasLongNumber (expandAliases name) = true) :
      Escapes name .longTypeNumber

theorem readName_eq_error_iff_escapes
    {text : String} {failure : Failure} (hfailure : ¬failure.IsUnreadableText) :
    readName text = .error failure ↔ Escapes text.toList failure := by
  constructor
  · intro h
    rcases readName_eq_error h with ⟨reason, rfl⟩ | ⟨rfl, -⟩
    · exact (hfailure ⟨text, reason, rfl⟩).elim
    · obtain ⟨hfirst, hsentence, hlong⟩ := readName_eq_longTypeNumber_iff.mp h
      exact .number hfirst hsentence hlong
  · rintro ⟨hfirst, hsentence, hlong⟩
    exact readName_eq_longTypeNumber_iff.mpr ⟨hfirst, hsentence, hlong⟩

theorem Escapes.isLong {name : List Char} {failure : Failure} (h : Escapes name failure) :
    failure.IsLong := by
  cases h
  exact Or.inr rfl

/-- Full names bring no long number into a text, so it holds one itself. -/
theorem Escapes.hasLongRow {name : List Char} {failure : Failure} (h : Escapes name failure) :
    HasLongRow name := by
  obtain ⟨-, -, hlong⟩ := h
  have hown : ¬Grammar.hasLongNumber name = false := by
    intro hshort
    rw [hasLongNumber_expandAliases hshort] at hlong
    cases hlong
  rw [Grammar.hasLongNumber_eq_false_iff] at hown
  push Not at hown
  obtain ⟨row, hrow, hdigits, hlong⟩ := hown
  exact ⟨row, hrow, fun d hd => isDecimalDigit_of_isDigit (hdigits d hd), hlong⟩

end Abi

/-! ## Value types -/

namespace AbiType

/-- The texts that are a given text with dimensions behind it, and blanks around each
part. -/
inductive IsExtended (inner : List Char) : List Char → Prop
  | padded {cs : List Char} (hpadded : IsPadded inner cs) : IsExtended inner cs
  | dimension {front digits cs : List Char} (hfront : IsExtended inner front)
      (hdigits : ∀ d ∈ digits, isDecimalDigit d = true)
      (hpadded : IsPadded (front ++ '[' :: (digits ++ [']'])) cs) : IsExtended inner cs

theorem IsExtended.isInfix {inner cs : List Char} (h : IsExtended inner cs) : inner <:+: cs := by
  induction h with
  | padded hpadded => exact hpadded.isInfix
  | dimension _ _ hpadded ih =>
      exact ih.trans ((List.prefix_append _ _).isInfix.trans hpadded.isInfix)

/-- Reading a value type escapes with a failure: the name in front of its dimensions
does, or one of the dimensions is too long and all before it is read. -/
inductive Escapes (cs : List Char) : Failure → Prop
  | name {name : List Char} {failure : Failure} (hname : Abi.Escapes name failure)
      (hatomic : IsAtomic name) (hcs : IsExtended name cs) : Escapes cs failure
  | size {front digits : List Char} {t : AbiType} (hfront : IsValueText (strip front) t)
      (hdigits : ∀ d ∈ digits, isDecimalDigit d = true) (hlong : digitLimit < digits.length)
      (hcs : IsExtended (front ++ '[' :: (digits ++ [']'])) cs) : Escapes cs .longNumber

theorem isPadded_of_lastDimension? {cs front digits : List Char}
    (h : lastDimension? (strip cs) = some (front, digits)) :
    IsPadded (front ++ '[' :: (digits ++ [']'])) cs := by
  rw [← (lastDimension?_eq_some_iff.mp h).1]
  exact isPadded_strip cs

/-- A failure of the text before a dimension is the failure of the whole. -/
theorem ofSpelling_of_isExtended
    {reader : TypeReader} {inner cs : List Char} {failure : Failure}
    (hcs : IsExtended inner cs) (h : ofSpelling reader inner = .error failure) :
    ofSpelling reader cs = .error failure := by
  induction hcs with
  | padded hpadded => rw [← ofSpelling_strip, hpadded.strip_eq, ofSpelling_strip, h]
  | dimension _ hdigits hpadded ih =>
      rw [← ofSpelling_strip, hpadded.strip_eq, ofSpelling_strip,
        ofSpelling_append_brackets reader _ hdigits, ih]
      rfl

theorem sizeOf?_eq_error_iff {digits : List Char} {failure : Failure} :
    sizeOf? digits = .error failure ↔ failure = .longNumber ∧ digitLimit < digits.length := by
  rw [sizeOf?]
  split
  · rename_i hempty
    simp [List.isEmpty_iff.mp hempty]
  · split
    · rename_i hlong
      simp [hlong, eq_comm]
    · rename_i hlong
      simp [hlong]

/-- A dimension that is too long is not read, whatever is in front of it. -/
theorem ofSpelling_append_longSize
    {reader : TypeReader} {front digits : List Char} {t : AbiType}
    (hfront : ofSpelling reader front = .ok t)
    (hdigits : ∀ d ∈ digits, isDecimalDigit d = true) (hlong : digitLimit < digits.length) :
    ofSpelling reader (front ++ '[' :: (digits ++ [']'])) = .error .longNumber := by
  rw [ofSpelling_append_brackets _ _ hdigits, hfront]
  exact congrArg (Except.map _) (sizeOf?_eq_error_iff.mpr ⟨rfl, hlong⟩)

namespace Escapes

variable {cs : List Char} {failure : Failure}

theorem dimension {front digits : List Char} (h : Escapes front failure)
    (hlast : lastDimension? (strip cs) = some (front, digits)) : Escapes cs failure := by
  have hdigits := (lastDimension?_eq_some_iff.mp hlast).2
  have hpadded := isPadded_of_lastDimension? hlast
  cases h with
  | name hname hatomic hfront => exact .name hname hatomic (.dimension hfront hdigits hpadded)
  | size hvalue hrow hlong hfront =>
      exact .size hvalue hrow hlong (.dimension hfront hdigits hpadded)

theorem ofSpelling (h : Escapes cs failure) (hfailure : ¬failure.IsUnreadableText) :
    AbiType.ofSpelling Abi.readName cs = .error failure := by
  cases h with
  | @name name _ hname hatomic hcs =>
      apply ofSpelling_of_isExtended hcs
      have hend : ¬EndsInDimension (strip name) := by
        rw [hatomic.stripped]
        exact hatomic.noDimension
      rw [ofSpelling_of_not_endsInDimension _ hend, hatomic.stripped,
        Abi.readName_eq_error_iff_escapes hfailure, String.toList_ofList]
      exact hname
  | size hfront hdigits hlong hcs =>
      apply ofSpelling_of_isExtended hcs
      have hread := hfront.ofSpelling
      rw [ofSpelling_strip] at hread
      exact ofSpelling_append_longSize hread hdigits hlong

theorem isLong (h : Escapes cs failure) : failure.IsLong := by
  cases h with
  | name hname => exact hname.isLong
  | size => exact Or.inl rfl

theorem hasLongRow (h : Escapes cs failure) : HasLongRow cs := by
  cases h with
  | name hname _ hcs => exact hname.hasLongRow.of_isInfix hcs.isInfix
  | @size front digits _ _ hdigits hlong hcs =>
      have hrow : digits <:+: front ++ '[' :: (digits ++ [']']) :=
        ⟨front ++ ['['], [']'], by simp⟩
      exact ⟨digits, hrow.trans hcs.isInfix, hdigits, hlong⟩

end Escapes

theorem ofSpelling_eq_error_iff_escapes
    {cs : List Char} {failure : Failure} (hfailure : ¬failure.IsUnreadableText) :
    ofSpelling Abi.readName cs = .error failure ↔ Escapes cs failure := by
  refine ⟨fun h => ?_, fun h => h.ofSpelling hfailure⟩
  fun_induction ofSpelling Abi.readName cs with
  | case1 cs text =>
      rename_i hlast
      have hname : Abi.Escapes text failure := by
        rwa [Abi.readName_eq_error_iff_escapes hfailure, String.toList_ofList] at h
      have hatomic : IsAtomic text := ⟨strip_strip cs, lastDimension?_eq_none_iff.mp hlast⟩
      exact .name hname hatomic (.padded (isPadded_strip cs))
  | case2 cs text front digits =>
      rename_i hlast inner hfront ih
      cases h
      exact (ih hfront).dimension hlast
  | case3 cs text front digits =>
      rename_i hlast t hfront ih
      obtain ⟨rfl, hlong⟩ := sizeOf?_eq_error_iff.mp (map_eq_error_iff.mp h)
      exact .size (isValueText_of_ofSpelling hfront) (lastDimension?_eq_some_iff.mp hlast).2
        hlong (.padded (isPadded_of_lastDimension? hlast))

end AbiType

/-! ## Slot types -/

namespace SlotType

/-- The text before the arrow that is found is one that can stand before an arrow. -/
theorem isEnclosed_take {cs : List Char} {i : Nat} (h : topLevelArrow? cs = some i) :
    IsEnclosed (cs.take i) := by
  obtain ⟨harrow, hleast⟩ := topLevelArrow?_eq_some_iff.mp h
  refine ⟨harrow.2, ?_⟩
  rintro j ⟨hstart, hdepth⟩
  rcases Nat.lt_or_ge j i with hj | hj
  · rw [List.take_take, Nat.min_eq_left hj.le] at hdepth
    rw [List.drop_take] at hstart
    exact hleast j hj ⟨hstart.trans (List.take_prefix _ _), hdepth⟩
  · rw [List.drop_of_length_le ((List.length_take_le _ _).trans hj)] at hstart
    simp at hstart

/-- Reading a slot type escapes with a failure: a value type does, or a part of a mapping
does and all before it is read. -/
inductive Escapes : List Char → Failure → Prop
  | value {cs : List Char} {failure : Failure} (hopen : afterOpening? (strip cs) = none)
      (hvalue : AbiType.Escapes cs failure) : Escapes cs failure
  | key {blanks front inner cs : List Char} {failure : Failure}
      (hblanks : ∀ c ∈ blanks, isBlank c = true) (hfront : IsEnclosed front)
      (hkey : Escapes front failure)
      (hpadded : IsPadded ("mapping".toList ++ blanks ++
        '(' :: (front ++ '=' :: '>' :: inner ++ [')'])) cs) :
      Escapes cs failure
  | inner {blanks key front inner cs : List Char} {k : AbiType} {failure : Failure}
      (hblanks : ∀ c ∈ blanks, isBlank c = true) (hkey : AbiType.IsValueText key k)
      (hfront : IsPadded key front) (hinner : Escapes inner failure)
      (hpadded : IsPadded ("mapping".toList ++ blanks ++
        '(' :: (front ++ '=' :: '>' :: inner ++ [')'])) cs) :
      Escapes cs failure

namespace Escapes

variable {cs : List Char} {failure : Failure}

theorem ofSpelling (h : Escapes cs failure) (hfailure : ¬failure.IsUnreadableText) :
    SlotType.ofSpelling Abi.readName cs = .error failure := by
  induction h with
  | value hopen hvalue =>
      rw [ofSpelling_of_afterOpening?_eq_none _ hopen, hvalue.ofSpelling hfailure]
      rfl
  | key hblanks hfront _ hpadded ih =>
      rw [ofSpelling_mapping _ _ hblanks hfront hpadded, ih hfailure]
      rfl
  | inner hblanks hkey hfront _ hpadded ih =>
      rw [ofSpelling_mapping _ _ hblanks (isEnclosed_of_isPadded hkey hfront) hpadded,
        ofSpelling_of_isPadded hkey hfront]
      exact congrArg (Except.map (nest _)) (ih hfailure)

theorem isLong (h : Escapes cs failure) : failure.IsLong := by
  induction h with
  | value _ hvalue => exact hvalue.isLong
  | key _ _ _ _ ih => exact ih
  | inner _ _ _ _ _ ih => exact ih

theorem hasLongRow (h : Escapes cs failure) : HasLongRow cs := by
  induction h with
  | value _ hvalue => exact hvalue.hasLongRow
  | @key blanks front inner _ _ _ _ _ hpadded ih =>
      refine (ih.of_isInfix ?_).of_isInfix hpadded.isInfix
      exact ⟨"mapping".toList ++ blanks ++ ['('], '=' :: '>' :: inner ++ [')'], by simp⟩
  | @inner blanks key front inner _ _ _ _ _ _ _ hpadded ih =>
      refine (ih.of_isInfix ?_).of_isInfix hpadded.isInfix
      exact ⟨"mapping".toList ++ blanks ++ '(' :: (front ++ ['=', '>']), [')'], by simp⟩

end Escapes

theorem ofSpelling_eq_error_iff_escapes
    {cs : List Char} {failure : Failure} (hfailure : ¬failure.IsUnreadableText)
    (hmapping : ¬failure.IsMappingKey) :
    ofSpelling Abi.readName cs = .error failure ↔ Escapes cs failure := by
  refine ⟨fun h => ?_, fun h => h.ofSpelling hfailure⟩
  fun_induction ofSpelling Abi.readName cs with
  | case1 cs text =>
      rename_i hopen
      have hvalue := map_eq_error_iff.mp h
      rw [AbiType.ofSpelling_strip, AbiType.ofSpelling_eq_error_iff_escapes hfailure] at hvalue
      exact .value hopen hvalue
  | case2 => exact (hfailure ⟨_, _, (Except.error.inj h).symm⟩).elim
  | case3 => exact (hfailure ⟨_, _, (Except.error.inj h).symm⟩).elim
  | case4 cs text inside =>
      rename_i hopen hclose body i harrow error hkey ih
      cases h
      obtain ⟨blanks, hblanks, hpadded⟩ :=
        exists_isPadded_mapping hopen (not_not.mp hclose) harrow
      exact .key hblanks (isEnclosed_take harrow) (ih hkey) hpadded
  | case5 => exact (hmapping (Except.error.inj h).symm).elim
  | case6 cs text inside =>
      rename_i hopen hclose body i harrow key hkey hvalue ihKey ihInner
      obtain ⟨keyText, hkeyText, hfront⟩ :=
        (isSlotText_of_ofSpelling hkey).exists_isPadded (Bool.not_eq_true _ ▸ hvalue)
      obtain ⟨blanks, hblanks, hpadded⟩ :=
        exists_isPadded_mapping hopen (not_not.mp hclose) harrow
      exact .inner hblanks hkeyText hfront (ihInner (map_eq_error_iff.mp h)) hpadded

end SlotType

/-! ## The failures of the readers -/

namespace Failure

/-- Every failure of the three readers of types that they do not document occurs exactly
where the reader escapes with it.  It reports a number beyond the digit limit, and the
text holds a row of digits that long. -/
theorem of_readers_iff_escapes
    {failure : Failure} (hfailure : ¬failure.IsUnreadableText) (text : String) :
    (Abi.readName text = .error failure ↔ Abi.Escapes text.toList failure) ∧
      (AbiType.ofSpelling Abi.readName text.toList = .error failure ↔
        AbiType.Escapes text.toList failure) ∧
      (¬failure.IsMappingKey →
        (SlotType.ofSpelling Abi.readName text.toList = .error failure ↔
          SlotType.Escapes text.toList failure)) ∧
      (Abi.Escapes text.toList failure ∨ AbiType.Escapes text.toList failure ∨
          SlotType.Escapes text.toList failure →
        failure.IsLong ∧ HasLongRow text.toList) := by
  refine ⟨Abi.readName_eq_error_iff_escapes hfailure,
    AbiType.ofSpelling_eq_error_iff_escapes hfailure,
    SlotType.ofSpelling_eq_error_iff_escapes hfailure, ?_⟩
  rintro (h | h | h)
  · exact ⟨h.isLong, h.hasLongRow⟩
  · exact ⟨h.isLong, h.hasLongRow⟩
  · exact ⟨h.isLong, h.hasLongRow⟩

theorem isDecimalDigit_of_mem_ones {n : Nat} :
    ∀ d ∈ List.replicate n '1', isDecimalDigit d = true := by
  intro d hd
  rw [List.eq_of_mem_replicate hd]
  decide

theorem digitLimit_lt_length_ones : digitLimit < (List.replicate 4301 '1').length := by
  rw [List.length_replicate]
  decide

theorem isValueText_uint8 : AbiType.IsValueText "uint8".toList (.elementary "uint8") := by
  let uint8 : Abi.Elementary :=
    ⟨"uint", some (.size 8), .integer (Or.inr rfl) (by decide) (by decide) (by decide)⟩
  have hname : uint8.name = "uint8" := by decide +kernel
  have htext := AbiType.IsValueText.elementary (.name uint8)
  rwa [hname] at htext

theorem of_readers_iff_escapes_longSize :
    let text := String.ofList ("uint8".toList ++ '[' :: (List.replicate 4301 '1' ++ [']']))
    ¬Failure.longNumber.IsUnreadableText ∧ ¬Failure.longNumber.IsMappingKey ∧
      AbiType.ofSpelling Abi.readName text.toList = .error .longNumber ∧
      SlotType.ofSpelling Abi.readName text.toList = .error .longNumber := by
  intro text
  have hfailure : ¬Failure.longNumber.IsUnreadableText := by
    rintro ⟨_, _, h⟩
    cases h
  have hmapping : ¬Failure.longNumber.IsMappingKey := by
    intro h
    cases h
  have hvalue : AbiType.IsValueText (strip "uint8".toList) (.elementary "uint8") := by
    rw [isValueText_uint8.strip_eq]
    exact isValueText_uint8
  have hescapes : AbiType.Escapes text.toList .longNumber := by
    rw [String.toList_ofList]
    exact .size hvalue isDecimalDigit_of_mem_ones digitLimit_lt_length_ones
      (.padded (isPadded_self _))
  have hparen : ∀ n, '(' ∉ "uint8".toList ++ '[' :: (List.replicate n '1' ++ [']']) := by
    intro n
    simp
  have hopen : SlotType.afterOpening? (strip text.toList) = none := by
    apply SlotType.afterOpening?_eq_none_of_not_mem
    intro hmem
    have hin := (isPadded_strip text.toList).isInfix.subset hmem
    rw [String.toList_ofList] at hin
    exact hparen _ hin
  obtain ⟨-, habi, hslot, -⟩ := of_readers_iff_escapes hfailure text
  exact ⟨hfailure, hmapping, habi.mpr hescapes,
    (hslot hmapping).mpr (.value hopen hescapes)⟩

/-- A reader can fail with a failure that it does not document. -/
theorem not_all_failures_are_documented :
    ¬∀ (text : String) (failure : Failure),
      AbiType.ofSpelling Abi.readName text.toList = .error failure →
        failure.IsUnreadableText := by
  intro h
  obtain ⟨_, _, heq⟩ :=
    h (String.ofList ("uint8".toList ++ '[' :: (List.replicate 4301 '1' ++ [']']))) .longNumber <| by
      rw [String.toList_ofList]
      exact AbiType.ofSpelling_append_longSize isValueText_uint8.ofSpelling
        isDecimalDigit_of_mem_ones digitLimit_lt_length_ones
  cases heq

end Failure

end SolidityLayout
