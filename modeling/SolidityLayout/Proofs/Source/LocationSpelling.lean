import SolidityLayout.Proofs.Source.FieldHistory

/-!
# Spellings of locations in source maps

A location is written as three integers with colons between them, and the first
segment of a source map begins with three such fields.  No spelling of an integer
is empty or holds a separator of either format, so whatever is read as a location
is read as the same location at the start of a source map.
-/

namespace SolidityLayout

open Number Text

namespace Number

/-! ## Characters of decimal literals -/

theorem mem_of_unsignedDecimal? {cs : List Char} {n : Nat}
    (h : unsignedDecimal? cs = some n) {c : Char} (hc : c ∈ cs) :
    isDecimalDigit c = true ∨ c = '_' := by
  unfold unsignedDecimal? at h
  split at h
  · cases h
  · rename_i digits hdigits
    exact (isDigitRow_of_groupedDigits? hdigits).isSome_or_eq_of_mem hc

theorem mem_of_signedDecimal? {cs : List Char} {n : Int}
    (h : signedDecimal? cs = some n) {c : Char} (hc : c ∈ cs) :
    isDecimalDigit c = true ∨ c ∈ ['_', '+', '-'] := by
  unfold signedDecimal? at h
  split at h
  · obtain ⟨m, hm, -⟩ := Option.map_eq_some_iff.mp h
    rcases List.mem_cons.mp hc with rfl | hc
    · simp
    · exact (mem_of_unsignedDecimal? hm hc).imp_right fun hunder => by simp [hunder]
  · obtain ⟨m, hm, -⟩ := Option.map_eq_some_iff.mp h
    obtain ⟨k, hk, -⟩ := Option.bind_eq_some_iff.mp hm
    rcases List.mem_cons.mp hc with rfl | hc
    · simp
    · exact (mem_of_unsignedDecimal? hk hc).imp_right fun hunder => by simp [hunder]
  · obtain ⟨m, hm, -⟩ := Option.map_eq_some_iff.mp h
    exact (mem_of_unsignedDecimal? hm hc).imp_right fun hunder => by simp [hunder]

/-- A decimal literal is made of digits, underscores, signs and blanks. -/
theorem mem_of_decimal? {cs : List Char} {n : Int}
    (h : decimal? cs = some n) {c : Char} (hc : c ∈ cs) :
    isDecimalDigit c = true ∨ c ∈ ['_', '+', '-'] ∨ isBlank c = true := by
  have hblank {d : Char} (hd : isLiteralBlank d = true) : isBlank d = true := by
    rw [isLiteralBlank, Bool.and_eq_true] at hd
    exact hd.1
  obtain ⟨front, back, hsplit, hfront, hback⟩ :=
    exists_eq_append_trim isLiteralBlank cs
  rw [hsplit, List.mem_append, List.mem_append] at hc
  rcases hc with hc | hc | hc
  · exact Or.inr (Or.inr (hblank (hfront c hc)))
  · exact (mem_of_signedDecimal? h hc).imp_right Or.inl
  · exact Or.inr (Or.inr (hblank (hback c hc)))

theorem semicolon_not_mem_of_decimal? {cs : List Char} {n : Int}
    (h : decimal? cs = some n) : ';' ∉ cs := by
  intro hc
  rcases mem_of_decimal? h hc with hdigit | hmark | hblank
  · exact absurd hdigit (by decide)
  · exact absurd hmark (by decide)
  · exact absurd hblank (by decide)

theorem ne_nil_of_decimal? {cs : List Char} {n : Int}
    (h : decimal? cs = some n) : cs ≠ [] := by
  rintro rfl
  cases h

end Number

/-! ## Locations -/

namespace Location

theorem parse?_eq_some_iff {text : String} {l : Location} :
    parse? text = some l ↔
      ∃ offset length file, text.toList.splitOn ':' = [offset, length, file] ∧
        decimal? offset = some l.offset ∧ decimal? length = some l.length ∧
        decimal? file = some l.file := by
  constructor
  · intro h
    unfold parse? at h
    split at h
    · rename_i offset length file hfields
      simp only [Option.pure_def, Option.bind_eq_bind, Option.bind_eq_some_iff,
        Option.some.injEq] at h
      obtain ⟨o, ho, n, hn, f, hf, rfl⟩ := h
      exact ⟨offset, length, file, hfields, ho, hn, hf⟩
    · cases h
  · rintro ⟨offset, length, file, hfields, hoffset, hlength, hfile⟩
    rw [parse?, hfields]
    simp [hoffset, hlength, hfile]

/-- A location has no semicolon in its spelling. -/
theorem semicolon_not_mem_of_parse? {text : String} {l : Location}
    (h : parse? text = some l) : ';' ∉ text.toList := by
  obtain ⟨offset, length, file, hfields, hoffset, hlength, hfile⟩ :=
    parse?_eq_some_iff.mp h
  have hjoined := @List.intercalate_splitOn _ text.toList _ _ ':'
  rw [hfields] at hjoined
  rw [← hjoined]
  have hcolon : ';' ≠ ':' := by decide
  simp [List.intercalate, List.intersperse, hcolon, semicolon_not_mem_of_decimal? hoffset,
    semicolon_not_mem_of_decimal? hlength, semicolon_not_mem_of_decimal? hfile]

end Location

/-! ## The first entry of a source map -/

namespace SourceMap

theorem intField?_of_decimal? {cs : List Char} {n : Int}
    (h : decimal? cs = some n) (before : Int) : intField? before (some cs) = some n := by
  have hne := ne_nil_of_decimal? h
  unfold intField?
  split
  · rename_i hnone
    cases hnone
  · rename_i hnil
    cases hnil
    exact (hne rfl).elim
  · rename_i hsome
    cases hsome
    exact h

section Entry

variable {offset length file : List Char} {more : List (List Char)} {l : Location}
  {segment : List Char} (hfields : segment.splitOn ':' = offset :: length :: file :: more)
  (hoffset : decimal? offset = some l.offset) (hlength : decimal? length = some l.length)
  (hfile : decimal? file = some l.file)

include hfields hoffset hlength hfile

/-- The entry of a segment that begins with three integers, whatever the entry
before. -/
theorem entry?_eq_map (before : SourceMapEntry) :
    entry? before segment =
      (intField? before.modifierDepth more[1]?).map fun depth =>
        ⟨l, textField before.jump more[0]?, depth⟩ := by
  unfold entry?
  rw [hfields]
  simp only [List.getElem?_cons_zero, List.getElem?_cons_succ,
    intField?_of_decimal? hoffset, intField?_of_decimal? hlength,
    intField?_of_decimal? hfile]
  cases intField? before.modifierDepth more[1]? with
  | none => rfl
  | some depth => rfl

end Entry

/-- What follows a text without separators goes on with its first piece. -/
theorem splitOn_append_of_not_mem
    {separator : Char} {front back first : List Char} {rest : List (List Char)}
    (hfront : separator ∉ front) (hback : back.splitOn separator = first :: rest) :
    (front ++ back).splitOn separator = (front ++ first) :: rest := by
  induction front with
  | nil => exact hback
  | cons c front ih =>
      rw [List.mem_cons, not_or] at hfront
      rw [List.cons_append, List.splitOn_cons_eq_if_modifyHead, ih hfront.2]
      simp [Ne.symm hfront.1]

/-- Up to its first semicolon a text is empty or goes on behind a colon, if it
begins with one of the two separators. -/
theorem exists_splitOn_semicolon
    {cs : List Char} (hcs : ∀ c ∈ cs.head?, c = ':' ∨ c = ';') :
    ∃ first rest, cs.splitOn ';' = first :: rest ∧
      (first = [] ∨ ∃ more, first = ':' :: more) := by
  cases cs with
  | nil => exact ⟨[], [], rfl, Or.inl rfl⟩
  | cons c more =>
      rcases hcs c rfl with rfl | rfl
      · obtain ⟨first, rest, hmore⟩ := List.exists_cons_of_ne_nil
          (List.splitOn_ne_nil ';' more)
        have hcolon : ';' ∉ [':'] := by decide
        exact ⟨':' :: first, rest, splitOn_append_of_not_mem hcolon hmore,
          Or.inr ⟨first, rfl⟩⟩
      · exact ⟨[], more.splitOn ';', List.splitOn_append_cons_self [] more, Or.inl rfl⟩

theorem exists_splitOn_colon
    {fields : List (List Char)} {front back : List Char}
    (hfront : front.splitOn ':' = fields) (hback : back = [] ∨ ∃ more, back = ':' :: more) :
    ∃ more, (front ++ back).splitOn ':' = fields ++ more := by
  rcases hback with rfl | ⟨more, rfl⟩
  · exact ⟨[], by rw [List.append_nil, List.append_nil, hfront]⟩
  · exact ⟨more.splitOn ':', by rw [List.splitOn_append_cons_self, hfront]⟩

/-- A source map that begins with the spelling of a location, and goes on with a
further field or a further segment, has its first entry at that location. -/
theorem head?_map_location_of_decode
    {text rest : String} {l : Location} (htext : Location.parse? text = some l)
    (hrest : ∀ c ∈ rest.toList.head?, c = ':' ∨ c = ';')
    {entries : List SourceMapEntry} (h : decode (text ++ rest) = .ok entries) :
    (entries.map (·.location)).head? = some l := by
  obtain ⟨offset, length, file, hfields, hoffset, hlength, hfile⟩ :=
    Location.parse?_eq_some_iff.mp htext
  obtain ⟨first, segments, hsegments, hfirst⟩ := exists_splitOn_semicolon hrest
  obtain ⟨more, hmore⟩ := exists_splitOn_colon hfields hfirst
  unfold decode at h
  split at h
  · -- A location is not written as an empty text.
    rename_i hempty
    have hnil : text = "" := by
      simp only [String.isEmpty_iff, String.append_eq_empty_iff] at hempty
      exact hempty.1
    rw [hnil] at htext
    cases htext
  · rw [String.toList_append, splitOn_append_of_not_mem
      (Location.semicolon_not_mem_of_parse? htext) hsegments] at h
    obtain ⟨entry, others, hentry, -, rfl⟩ := entriesAfter_cons_eq_ok_iff.mp h
    have hmap := entry?_eq_map hmore hoffset hlength hfile initial
    obtain ⟨depth, -, rfl⟩ := Option.map_eq_some_iff.mp (hmap.symm.trans hentry)
    rfl

/-- The spelling of a location is a source map of one entry. -/
theorem decode_of_parse? {text : String} {l : Location}
    (htext : Location.parse? text = some l) :
    decode text = .ok [⟨l, initial.jump, initial.modifierDepth⟩] := by
  obtain ⟨offset, length, file, hfields, hoffset, hlength, hfile⟩ :=
    Location.parse?_eq_some_iff.mp htext
  have hempty : text.isEmpty = false := by
    cases hnil : text.isEmpty with
    | false => rfl
    | true =>
        rw [String.isEmpty_iff.mp hnil] at htext
        cases htext
  have hlone := List.splitOn_eq_singleton (Location.semicolon_not_mem_of_parse? htext)
  have hentry := entry?_eq_map hfields hoffset hlength hfile initial
  rw [decode, hempty, hlone, if_neg (by decide), entriesAfter, hentry]
  rfl

end SourceMap

end SolidityLayout
