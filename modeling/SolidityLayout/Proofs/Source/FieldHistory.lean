import SolidityLayout.Proofs.Number.IntegerLanguage
import SolidityLayout.Source.Map

/-!
# The history of a field

The reader of source maps carries every field from one entry to the next.  What a field
has in an entry can also be told from the segments up to there, without the entries
between: it is what the last segment says in which the field is not empty, and the five
fields are independent of one another.
-/

namespace SolidityLayout.SourceMap

open Number

/-! ## Fields of segments -/

/-- The text of a field of a segment, unless the field is empty or left out. -/
def field? (segment : List Char) (j : Nat) : Option (List Char) :=
  (segment.splitOn ':')[j]?.filter (· ≠ [])

/-- The text of a field in the last segment that has one. -/
def latest? (segments : List (List Char)) (j : Nat) : Option (List Char) :=
  (segments.filterMap (field? · j)).getLast?

theorem latest?_append_singleton (front : List (List Char)) (segment : List Char) (j : Nat) :
    latest? (front ++ [segment]) j = (field? segment j).or (latest? front j) := by
  rw [latest?, latest?, List.filterMap_append, List.getLast?_append]
  cases hfield : field? segment j with
  | none => simp [hfield]
  | some cs => simp [hfield]

/-- The integers that a field can have: the one that its text denotes, or a given one if
it has no text. -/
inductive IsIntegerField (unset : Int) : Option (List Char) → Int → Prop
  | unset : IsIntegerField unset none unset
  | text {cs : List Char} {n : Int} (hcs : IsIntegerText cs n) :
      IsIntegerField unset (some cs) n

/-- The text that a field has, or a given one if it has none. -/
def fieldText (unset : String) (field : Option (List Char)) : String :=
  (field.map String.ofList).getD unset

namespace IsIntegerField

variable {unset m n : Int} {field : Option (List Char)}

theorem unique (hm : IsIntegerField unset field m) (hn : IsIntegerField unset field n) :
    m = n := by
  cases hm with
  | unset =>
      cases hn
      rfl
  | text hm =>
      cases hn with
      | text hn => exact hm.unique hn

/-- What a segment says about a field that has been carried up to it. -/
theorem append_singleton_iff
    {front : List (List Char)} {segment : List Char} {j : Nat}
    (h : IsIntegerField unset (latest? front j) m) :
    IsIntegerField m (field? segment j) n ↔
      IsIntegerField unset (latest? (front ++ [segment]) j) n := by
  rw [latest?_append_singleton]
  cases field? segment j with
  | none =>
      constructor
      · rintro ⟨⟩
        exact h
      · intro hn
        obtain rfl := h.unique hn
        exact .unset
  | some cs =>
      constructor
      · rintro (_ | hcs)
        exact .text hcs
      · rintro (_ | hcs)
        exact .text hcs

end IsIntegerField

theorem fieldText_append_singleton
    (unset : String) (front : List (List Char)) (segment : List Char) (j : Nat) :
    fieldText (fieldText unset (latest? front j)) (field? segment j) =
      fieldText unset (latest? (front ++ [segment]) j) := by
  rw [latest?_append_singleton]
  cases field? segment j with
  | none => rfl
  | some cs => rfl

/-- Every field for an integer that has a text in the segment denotes one. -/
def IsWellFormed (segment : List Char) : Prop :=
  ∀ j ∈ [0, 1, 2, 4], ∀ cs ∈ field? segment j, ∃ n, IsIntegerText cs n

/-! ## One segment -/

theorem intField?_eq_some_iff {before n : Int} {segment : List Char} {j : Nat} :
    intField? before (segment.splitOn ':')[j]? = some n ↔
      IsIntegerField before (field? segment j) n := by
  rw [field?]
  cases (segment.splitOn ':')[j]? with
  | none =>
      constructor
      · rintro ⟨⟩
        exact .unset
      · rintro ⟨⟩
        rfl
  | some cs =>
      cases cs with
      | nil =>
          constructor
          · rintro ⟨⟩
            exact .unset
          · rintro ⟨⟩
            rfl
      | cons c rest =>
          rw [intField?, decimal?_eq_some_iff]
          · constructor
            · exact .text
            · rintro (_ | hcs)
              exact hcs
          · exact List.cons_ne_nil c rest

theorem textField_eq (before : String) (segment : List Char) (j : Nat) :
    textField before (segment.splitOn ':')[j]? = fieldText before (field? segment j) := by
  rw [field?]
  cases (segment.splitOn ':')[j]? with
  | none => rfl
  | some cs =>
      cases cs with
      | nil => rfl
      | cons c rest => rfl

/-- The entry of a segment, field by field. -/
theorem entry?_eq_some_iff {before entry : SourceMapEntry} {segment : List Char} :
    entry? before segment = some entry ↔
      IsIntegerField before.location.offset (field? segment 0) entry.location.offset ∧
        IsIntegerField before.location.length (field? segment 1) entry.location.length ∧
        IsIntegerField before.location.file (field? segment 2) entry.location.file ∧
        entry.jump = fieldText before.jump (field? segment 3) ∧
        IsIntegerField before.modifierDepth (field? segment 4) entry.modifierDepth := by
  unfold entry?
  simp only [Option.pure_def, Option.bind_eq_bind, Option.bind_eq_some_iff,
    Option.some.injEq, intField?_eq_some_iff, textField_eq]
  constructor
  · rintro ⟨offset, hoffset, length, hlength, file, hfile, depth, hdepth, rfl⟩
    exact ⟨hoffset, hlength, hfile, rfl, hdepth⟩
  · rintro ⟨hoffset, hlength, hfile, hjump, hdepth⟩
    refine ⟨_, hoffset, _, hlength, _, hfile, _, hdepth, ?_⟩
    rw [← hjump]

theorem exists_isIntegerField_iff {unset : Int} {field : Option (List Char)} :
    (∃ n, IsIntegerField unset field n) ↔ ∀ cs ∈ field, ∃ n, IsIntegerText cs n := by
  constructor
  · rintro ⟨n, hn⟩ cs hcs
    cases hn with
    | unset => cases hcs
    | text hn =>
        cases hcs
        exact ⟨n, hn⟩
  · intro h
    cases field with
    | none => exact ⟨unset, .unset⟩
    | some cs =>
        obtain ⟨n, hn⟩ := h cs rfl
        exact ⟨n, .text hn⟩

/-- A segment has an entry exactly if it is well-formed, whatever the entry before. -/
theorem exists_entry?_iff {before : SourceMapEntry} {segment : List Char} :
    (∃ entry, entry? before segment = some entry) ↔ IsWellFormed segment := by
  simp only [IsWellFormed, List.forall_mem_cons, List.not_mem_nil, false_implies,
    implies_true, and_true]
  constructor
  · rintro ⟨entry, hentry⟩
    obtain ⟨hoffset, hlength, hfile, -, hdepth⟩ := entry?_eq_some_iff.mp hentry
    exact ⟨exists_isIntegerField_iff.mp ⟨_, hoffset⟩, exists_isIntegerField_iff.mp ⟨_, hlength⟩,
      exists_isIntegerField_iff.mp ⟨_, hfile⟩, exists_isIntegerField_iff.mp ⟨_, hdepth⟩⟩
  · rintro ⟨hoffset, hlength, hfile, hdepth⟩
    obtain ⟨offset, hoffset⟩ := exists_isIntegerField_iff.mpr hoffset
    obtain ⟨length, hlength⟩ := exists_isIntegerField_iff.mpr hlength
    obtain ⟨file, hfile⟩ := exists_isIntegerField_iff.mpr hfile
    obtain ⟨depth, hdepth⟩ := exists_isIntegerField_iff.mpr hdepth
    exact ⟨⟨⟨offset, length, file⟩, _, depth⟩,
      entry?_eq_some_iff.mpr ⟨hoffset, hlength, hfile, rfl, hdepth⟩⟩

/-- The entry behind some segments: each field is what the last segment says that has a
text for it, and the initial value if there is none. -/
structure IsEntryAfter (segments : List (List Char)) (entry : SourceMapEntry) : Prop where
  offset : IsIntegerField 0 (latest? segments 0) entry.location.offset
  length : IsIntegerField 0 (latest? segments 1) entry.location.length
  file : IsIntegerField (-1) (latest? segments 2) entry.location.file
  jump : entry.jump = fieldText "-" (latest? segments 3)
  modifierDepth : IsIntegerField 0 (latest? segments 4) entry.modifierDepth

theorem isEntryAfter_initial : IsEntryAfter [] initial where
  offset := .unset
  length := .unset
  file := .unset
  jump := rfl
  modifierDepth := .unset

/-- The step of the reader: what it carries is the entry behind the segments so far, and
so is what it reads next. -/
theorem IsEntryAfter.entry?_eq_some_iff
    {front : List (List Char)} {segment : List Char} {before entry : SourceMapEntry}
    (h : IsEntryAfter front before) :
    entry? before segment = some entry ↔ IsEntryAfter (front ++ [segment]) entry := by
  rw [SourceMap.entry?_eq_some_iff, h.offset.append_singleton_iff,
    h.length.append_singleton_iff, h.file.append_singleton_iff,
    h.modifierDepth.append_singleton_iff, h.jump, fieldText_append_singleton]
  constructor
  · rintro ⟨hoffset, hlength, hfile, hjump, hdepth⟩
    exact ⟨hoffset, hlength, hfile, hjump, hdepth⟩
  · rintro ⟨hoffset, hlength, hfile, hjump, hdepth⟩
    exact ⟨hoffset, hlength, hfile, hjump, hdepth⟩

/-! ## All segments -/

theorem entriesAfter_cons_eq_ok_iff
    {before : SourceMapEntry} {segment : List Char} {rest : List (List Char)}
    {entries : List SourceMapEntry} :
    entriesAfter before (segment :: rest) = .ok entries ↔
      ∃ entry more, entry? before segment = some entry ∧
        entriesAfter entry rest = .ok more ∧ entries = entry :: more := by
  rw [entriesAfter]
  cases hentry : entry? before segment with
  | none => simp
  | some entry =>
      cases hrest : entriesAfter entry rest with
      | error fault => simp [Except.map, hrest]
      | ok more => simp [Except.map, hrest, eq_comm]

theorem entriesAfter_cons_eq_error_iff
    {before : SourceMapEntry} {segment : List Char} {rest : List (List Char)}
    {fault : ArtifactFault} :
    entriesAfter before (segment :: rest) = .error fault ↔
      (∃ entry, entry? before segment = some entry ∧ entriesAfter entry rest = .error fault) ∨
        entry? before segment = none ∧ fault = .sourceMapEntry (String.ofList segment) := by
  rw [entriesAfter]
  cases hentry : entry? before segment with
  | none => simp [eq_comm]
  | some entry =>
      cases hrest : entriesAfter entry rest with
      | error fault => simp [Except.map, hrest]
      | ok more => simp [Except.map, hrest]

/-- What is read is the list of the entries behind the segments up to each of them, by
induction along the segments. -/
theorem IsEntryAfter.entriesAfter_eq_ok_iff
    {segments front : List (List Char)} {before : SourceMapEntry} {entries : List SourceMapEntry}
    (hbefore : IsEntryAfter front before) :
    entriesAfter before segments = .ok entries ↔
      entries.length = segments.length ∧
        ∀ i entry, entries[i]? = some entry →
          IsEntryAfter (front ++ segments.take (i + 1)) entry := by
  induction segments generalizing front before entries with
  | nil =>
      constructor
      · rintro ⟨⟩
        simp
      · rintro ⟨hlength, -⟩
        rw [List.length_eq_zero_iff.mp hlength]
        rfl
  | cons segment rest ih =>
      have hsplit : ∀ i, front ++ (segment :: rest).take (i + 1) =
          front ++ [segment] ++ rest.take i := by
        intro i
        simp
      rw [entriesAfter_cons_eq_ok_iff]
      constructor
      · rintro ⟨first, more, hfirst, hmore, rfl⟩
        have hafter := hbefore.entry?_eq_some_iff.mp hfirst
        obtain ⟨hlength, hentries⟩ := (ih hafter).mp hmore
        refine ⟨by simp [hlength], ?_⟩
        intro i entry hi
        rw [hsplit]
        cases i with
        | zero =>
            cases hi
            rwa [List.take_zero, List.append_nil]
        | succ i => exact hentries i entry (by simpa using hi)
      · rintro ⟨hlength, hentries⟩
        cases entries with
        | nil => cases hlength
        | cons first more =>
            have hafter : IsEntryAfter (front ++ [segment]) first := hentries 0 first rfl
            refine ⟨first, more, hbefore.entry?_eq_some_iff.mpr hafter, (ih hafter).mpr ?_, rfl⟩
            refine ⟨by simpa using hlength, ?_⟩
            intro i entry hi
            rw [← hsplit]
            exact hentries (i + 1) entry (by simpa using hi)

/-- The segments are read exactly if all of them are well-formed. -/
theorem exists_entriesAfter_iff {segments : List (List Char)} {before : SourceMapEntry} :
    (∃ entries, entriesAfter before segments = .ok entries) ↔
      ∀ segment ∈ segments, IsWellFormed segment := by
  induction segments generalizing before with
  | nil => simp [entriesAfter]
  | cons segment rest ih =>
      rw [List.forall_mem_cons]
      constructor
      · rintro ⟨entries, h⟩
        obtain ⟨entry, more, hentry, hmore, -⟩ := entriesAfter_cons_eq_ok_iff.mp h
        exact ⟨exists_entry?_iff.mp ⟨entry, hentry⟩, ih.mp ⟨more, hmore⟩⟩
      · rintro ⟨hsegment, hrest⟩
        obtain ⟨entry, hentry⟩ := exists_entry?_iff.mpr hsegment
        obtain ⟨more, hmore⟩ := ih.mpr hrest
        exact ⟨_, entriesAfter_cons_eq_ok_iff.mpr ⟨entry, more, hentry, hmore, rfl⟩⟩

/-- A segment is the first one in a list that is not well-formed. -/
def IsFirstMalformed (segments : List (List Char)) (segment : List Char) : Prop :=
  ∃ front back, segments = front ++ segment :: back ∧
    (∀ s ∈ front, IsWellFormed s) ∧ ¬IsWellFormed segment

theorem isFirstMalformed_cons_iff {first segment : List Char} {rest : List (List Char)} :
    IsFirstMalformed (first :: rest) segment ↔
      (IsWellFormed first ∧ IsFirstMalformed rest segment) ∨
        (¬IsWellFormed first ∧ segment = first) := by
  constructor
  · rintro ⟨front, back, hsplit, hfront, hsegment⟩
    cases front with
    | nil =>
        cases hsplit
        exact Or.inr ⟨hsegment, rfl⟩
    | cons s front =>
        cases hsplit
        obtain ⟨hs, hfront⟩ := List.forall_mem_cons.mp hfront
        exact Or.inl ⟨hs, front, back, rfl, hfront, hsegment⟩
  · rintro (⟨hfirst, front, back, rfl, hfront, hsegment⟩ | ⟨hfirst, rfl⟩)
    · exact ⟨first :: front, back, rfl, List.forall_mem_cons.mpr ⟨hfirst, hfront⟩, hsegment⟩
    · exact ⟨[], rest, rfl, by simp, hfirst⟩

theorem entry?_eq_none_iff {before : SourceMapEntry} {segment : List Char} :
    entry? before segment = none ↔ ¬IsWellFormed segment := by
  rw [← @exists_entry?_iff before, Option.eq_none_iff_forall_ne_some, not_exists]

/-- The failure names the first segment that is not well-formed. -/
theorem entriesAfter_eq_error_iff
    {segments : List (List Char)} {before : SourceMapEntry} {fault : ArtifactFault} :
    entriesAfter before segments = .error fault ↔
      ∃ segment, IsFirstMalformed segments segment ∧
        fault = .sourceMapEntry (String.ofList segment) := by
  induction segments generalizing before with
  | nil => simp [entriesAfter, IsFirstMalformed]
  | cons first rest ih =>
      simp only [entriesAfter_cons_eq_error_iff, isFirstMalformed_cons_iff, ih,
        entry?_eq_none_iff]
      constructor
      · rintro (⟨entry, hentry, segment, hsegment, rfl⟩ | ⟨hfirst, rfl⟩)
        · exact ⟨segment, Or.inl ⟨exists_entry?_iff.mp ⟨entry, hentry⟩, hsegment⟩, rfl⟩
        · exact ⟨first, Or.inr ⟨hfirst, rfl⟩, rfl⟩
      · rintro ⟨segment, ⟨hfirst, hsegment⟩ | ⟨hfirst, rfl⟩, rfl⟩
        · obtain ⟨entry, hentry⟩ := (@exists_entry?_iff before first).mpr hfirst
          exact Or.inl ⟨entry, hentry, segment, hsegment, rfl⟩
        · exact Or.inr ⟨hfirst, rfl⟩

/-! ## Further fields -/

/-- Two segments have the same five fields; neither has to end there. -/
def AgreeOnFields (segment other : List Char) : Prop :=
  ∀ j < 5, field? segment j = field? other j

theorem entry?_eq_of_agreeOnFields {segment other : List Char} (h : AgreeOnFields segment other)
    (before : SourceMapEntry) : entry? before segment = entry? before other := by
  ext entry
  rw [entry?_eq_some_iff, entry?_eq_some_iff, h 0 (by decide), h 1 (by decide),
    h 2 (by decide), h 3 (by decide), h 4 (by decide)]

theorem entriesAfter_eq_ok_iff_of_agreeOnFields
    {segments others : List (List Char)} (h : List.Forall₂ AgreeOnFields segments others)
    {before : SourceMapEntry} {entries : List SourceMapEntry} :
    entriesAfter before segments = .ok entries ↔ entriesAfter before others = .ok entries := by
  induction h generalizing before entries with
  | nil => rfl
  | cons hsegment _ ih =>
      simp only [entriesAfter_cons_eq_ok_iff, entry?_eq_of_agreeOnFields hsegment, ih]

/-! ## Source maps -/

theorem decode_of_ne_empty {text : String} (htext : text ≠ "") :
    decode text = entriesAfter initial (text.toList.splitOn ';') := by
  rw [decode, if_neg]
  simpa using htext

/-- A source map is read exactly if its segments are well-formed, and then as the entries
behind the segments up to each of them; otherwise the failure names the first segment that
is not well-formed.  Only five fields of each segment matter. -/
theorem decode_outcome {text : String} (htext : text ≠ "") :
    let segments := text.toList.splitOn ';'
    ((∃ entries, decode text = .ok entries) ↔ ∀ segment ∈ segments, IsWellFormed segment) ∧
      (∀ entries, decode text = .ok entries ↔
        entries.length = segments.length ∧
          ∀ i entry, entries[i]? = some entry → IsEntryAfter (segments.take (i + 1)) entry) ∧
      (∀ fault, decode text = .error fault ↔
        ∃ segment, IsFirstMalformed segments segment ∧
          fault = .sourceMapEntry (String.ofList segment)) ∧
      ∀ other : String, other ≠ "" →
        List.Forall₂ AgreeOnFields segments (other.toList.splitOn ';') →
        ∀ entries, decode text = .ok entries ↔ decode other = .ok entries := by
  intro segments
  rw [decode_of_ne_empty htext]
  refine ⟨exists_entriesAfter_iff, ?_, fun _ => entriesAfter_eq_error_iff, ?_⟩
  · intro entries
    rw [isEntryAfter_initial.entriesAfter_eq_ok_iff]
    simp only [List.nil_append]
    rfl
  · intro other hother hagree entries
    rw [decode_of_ne_empty hother]
    exact entriesAfter_eq_ok_iff_of_agreeOnFields hagree

theorem decode_outcome_fourSegments :
    "1:2:0:o:1;;: 7:-1;+4:١_٠:::9:x" ≠ "" ∧
      IsEntryAfter ("1:2:0:o:1;;: 7:-1;+4:١_٠:::9:x".toList.splitOn ';')
        ⟨⟨4, 10, -1⟩, "o", 9⟩ := by
  have htext : "1:2:0:o:1;;: 7:-1;+4:١_٠:::9:x" ≠ "" := by decide
  have hread : decode "1:2:0:o:1;;: 7:-1;+4:١_٠:::9:x" =
      .ok [⟨⟨1, 2, 0⟩, "o", 1⟩, ⟨⟨1, 2, 0⟩, "o", 1⟩, ⟨⟨1, 7, -1⟩, "o", 1⟩,
        ⟨⟨4, 10, -1⟩, "o", 9⟩] := rfl
  obtain ⟨-, hentries, -, -⟩ := decode_outcome htext
  exact ⟨htext, ((hentries _).mp hread).2 3 _ rfl⟩

end SolidityLayout.SourceMap
