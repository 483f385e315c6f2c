import SolidityLayout.Proofs.Number.Numeral
import SolidityLayout.Proofs.Source.FieldHistory

/-!
# Numbers in source maps

A decimal literal is read only within the digit limit, so that every number in
an entry of a source map can be shown.
-/

namespace SolidityLayout

open Number Text

namespace Number

theorem isShowable_of_unsignedDecimal? {cs : List Char} {n : Nat}
    (h : unsignedDecimal? cs = some n) : isShowable n = true := by
  unfold unsignedDecimal? at h
  split at h
  · cases h
  · rename_i digits hdigits
    split at h
    · rename_i hlength
      cases h
      have hrow := isDigitRow_of_groupedDigits? hdigits
      exact isShowable_ofDigits (hrow.forall_mem digitValue?_lt_ten) hlength
    · cases h

/-- A decimal literal denotes an integer that can be shown. -/
theorem isShowable_of_decimal? {cs : List Char} {n : Int}
    (h : decimal? cs = some n) : isShowable n = true := by
  unfold decimal? signedDecimal? at h
  split at h
  · obtain ⟨m, hm, rfl⟩ := Option.map_eq_some_iff.mp h
    exact isShowable_of_unsignedDecimal? hm
  · obtain ⟨m, hm, rfl⟩ := Option.map_eq_some_iff.mp h
    obtain ⟨k, hk, hcast⟩ := Option.bind_eq_some_iff.mp hm
    cases hcast
    have hshow := isShowable_of_unsignedDecimal? hk
    rwa [isShowable, Int.natAbs_neg]
  · obtain ⟨m, hm, rfl⟩ := Option.map_eq_some_iff.mp h
    exact isShowable_of_unsignedDecimal? hm

end Number

namespace SourceMap

theorem isShowable_of_intField? {before n : Int} {field : Option (List Char)}
    (hbefore : Number.isShowable before = true) (h : intField? before field = some n) :
    Number.isShowable n = true := by
  unfold intField? at h
  split at h
  · cases h
    exact hbefore
  · cases h
    exact hbefore
  · exact isShowable_of_decimal? h

theorem isShowable_of_entry? {before entry : SourceMapEntry} {segment : List Char}
    (hbefore : before.location.isShowable = true)
    (h : entry? before segment = some entry) : entry.location.isShowable = true := by
  simp only [Location.isShowable, Bool.and_eq_true] at hbefore
  obtain ⟨⟨hoffset, hlength⟩, hfile⟩ := hbefore
  unfold entry? at h
  simp only [Option.pure_def, Option.bind_eq_bind, Option.bind_eq_some_iff,
    Option.some.injEq] at h
  obtain ⟨offset, hoffset', length, hlength', file, hfile', -, -, rfl⟩ := h
  simp only [Location.isShowable, Bool.and_eq_true]
  exact ⟨⟨isShowable_of_intField? hoffset hoffset',
    isShowable_of_intField? hlength hlength'⟩, isShowable_of_intField? hfile hfile'⟩

theorem isShowable_of_entriesAfter {segments : List (List Char)}
    {before : SourceMapEntry} {entries : List SourceMapEntry}
    (hbefore : before.location.isShowable = true)
    (h : entriesAfter before segments = .ok entries) :
    ∀ entry ∈ entries, entry.location.isShowable = true := by
  induction segments generalizing before entries with
  | nil =>
      cases h
      simp
  | cons segment rest ih =>
      obtain ⟨entry, more, hentry, hmore, rfl⟩ := entriesAfter_cons_eq_ok_iff.mp h
      have hshow := isShowable_of_entry? hbefore hentry
      exact List.forall_mem_cons.mpr ⟨hshow, ih hshow hmore⟩

/-- The location of every entry that is read can be shown. -/
theorem isShowable_of_decode {text : String} {entries : List SourceMapEntry}
    (h : decode text = .ok entries) :
    ∀ entry ∈ entries, entry.location.isShowable = true := by
  have hinitial : initial.location.isShowable = true := by decide +kernel
  unfold decode at h
  split at h
  · cases h
    simp
  · exact isShowable_of_entriesAfter hinitial h

end SourceMap

end SolidityLayout
