import Mathlib.Data.List.Basic
import SolidityLayout.Text.Quoted

/-!
# Kept code points

A text keeps the code points that it is made of: those that are put into it can be read
back, one by one and in front of any rest.  So different lists of code points are kept as
different texts, halves of surrogate pairs included, and a text can be written in UTF-8
exactly if no half was put into it.
-/

namespace SolidityLayout.Text

theorem toNat_ofNat {n : Nat} (h : n.isValidChar) : (Char.ofNat n).toNat = n := by
  rw [Char.ofNat, dif_pos h]
  rfl

theorem isSurrogate_iff {code : Nat} : isSurrogate code = true ↔ 0xD800 ≤ code ∧ code < 0xE000 := by
  rw [isSurrogate, isHighSurrogate, isLowSurrogate, Bool.or_eq_true, Bool.and_eq_true,
    Bool.and_eq_true]
  simp only [decide_eq_true_eq]
  omega

/-- A code point is a character or half a surrogate pair. -/
theorem isValidChar_of_lt {code : Nat} (hcode : code < 0x110000)
    (hwhole : isSurrogate code = false) : code.isValidChar := by
  have hnot : ¬(0xD800 ≤ code ∧ code < 0xE000) := by
    rw [← isSurrogate_iff, hwhole]
    decide
  rw [Nat.isValidChar]
  omega

theorem toNat_ownMark : ownMark.toNat = 0x5E000 := by
  decide

/-! ## Reading back -/

/-- A character that is no mark keeps a code point by itself. -/
theorem keptCodes_cons_of_ne {c : Char} (h : c ≠ ownMark) (rest : List Char) :
    keptCodes (c :: rest) = keptCode c :: keptCodes rest := by
  cases rest with
  | nil => rfl
  | cons own rest => rw [keptCodes, if_neg (by simpa using h)]

/-- Half a surrogate pair is read back from its stand-in. -/
theorem keptCode_standIn {code : Nat} (hhalf : isSurrogate code = true) :
    Char.ofNat (code + standInOffset) ≠ ownMark ∧
      keptCode (Char.ofNat (code + standInOffset)) = code := by
  have hbounds := isSurrogate_iff.mp hhalf
  have hnat : (Char.ofNat (code + standInOffset)).toNat = code + standInOffset := by
    apply toNat_ofNat
    rw [Nat.isValidChar, standInOffset]
    omega
  constructor
  · intro heq
    have hsame := congrArg Char.toNat heq
    rw [hnat, toNat_ownMark, standInOffset] at hsame
    omega
  · have hstandIn : isStandIn (Char.ofNat (code + standInOffset)) = true := by
      rw [isStandIn, hnat, Nat.add_sub_cancel, hhalf, Bool.and_true]
      exact decide_eq_true (Nat.le_add_left _ _)
    rw [keptCode, if_pos hstandIn, hnat, Nat.add_sub_cancel]

/-- A code point that is put in front of a text is read back in front of the rest. -/
theorem keptCodes_keep_append {code : Nat} (hcode : code < 0x110000) (rest : List Char) :
    keptCodes (keep code ++ rest) = code :: keptCodes rest := by
  cases hhalf : isSurrogate code with
  | true =>
      obtain ⟨hne, hkept⟩ := keptCode_standIn hhalf
      simp only [keep, hhalf, if_true, List.singleton_append]
      rw [keptCodes_cons_of_ne hne, hkept]
  | false =>
      have hnat := toNat_ofNat (isValidChar_of_lt hcode hhalf)
      by_cases hmarked : (isStandIn (Char.ofNat code) || Char.ofNat code == ownMark) = true
      · simp only [keep, hhalf, Bool.false_eq_true, if_false, hmarked, if_true,
          List.cons_append, List.nil_append]
        rw [keptCodes, if_pos (beq_self_eq_true ownMark), hnat]
      · have hown : Char.ofNat code ≠ ownMark := by
          intro heq
          simp [heq] at hmarked
        have hplain : isStandIn (Char.ofNat code) = false := by
          cases hstandIn : isStandIn (Char.ofNat code) with
          | true => simp [hstandIn] at hmarked
          | false => rfl
        simp only [keep, hhalf, Bool.false_eq_true, if_false, hmarked, List.singleton_append]
        rw [keptCodes_cons_of_ne hown, keptCode, hplain, if_neg Bool.false_ne_true, hnat]

theorem keptCodes_flatMap_keep {codes : List Nat} (h : ∀ code ∈ codes, code < 0x110000) :
    keptCodes (codes.flatMap keep) = codes := by
  induction codes with
  | nil => rfl
  | cons code rest ih =>
      rw [List.forall_mem_cons] at h
      rw [List.flatMap_cons, keptCodes_keep_append h.1, ih h.2]

/-- No two lists of code points are kept as the same text. -/
theorem flatMap_keep_inj {codes others : List Nat} (h : ∀ code ∈ codes, code < 0x110000)
    (h' : ∀ code ∈ others, code < 0x110000) :
    codes.flatMap keep = others.flatMap keep ↔ codes = others := by
  constructor
  · intro heq
    rw [← keptCodes_flatMap_keep h, heq, keptCodes_flatMap_keep h']
  · exact congrArg _

/-! ## Writing -/

/-- A text can be written in UTF-8 exactly if all its code points are characters. -/
theorem isEncodable_ofList_flatMap_keep {codes : List Nat}
    (h : ∀ code ∈ codes, code < 0x110000) :
    isEncodable (String.ofList (codes.flatMap keep)) = true ↔
      ∀ code ∈ codes, isSurrogate code = false := by
  rw [isEncodable, String.toList_ofList, keptCodes_flatMap_keep h, List.all_eq_true]
  simp only [Bool.not_eq_true']

theorem toNat_lt (c : Char) : c.toNat < 0x110000 := by
  have hvalid : c.toNat.isValidChar := c.valid
  rw [Nat.isValidChar] at hvalid
  omega

theorem isSurrogate_toNat (c : Char) : isSurrogate c.toNat = false := by
  have hvalid : c.toNat.isValidChar := c.valid
  rw [Nat.isValidChar] at hvalid
  apply Bool.eq_false_iff.mpr
  rw [Ne, isSurrogate_iff]
  omega

theorem keptCodes_kept (cs : List Char) : keptCodes (kept cs) = cs.map Char.toNat := by
  have hcodes : kept cs = (cs.map Char.toNat).flatMap keep := by
    rw [kept, List.flatMap_map]
  rw [hcodes, keptCodes_flatMap_keep]
  intro code hcode
  obtain ⟨c, -, rfl⟩ := List.mem_map.mp hcode
  exact toNat_lt c

/-- A text of characters is written as it was. -/
theorem plain_ofList_kept (cs : List Char) :
    isEncodable (String.ofList (kept cs)) = true ∧
      plain (String.ofList (kept cs)) = String.ofList cs := by
  rw [isEncodable, plain, String.toList_ofList, keptCodes_kept]
  constructor
  · simp [isSurrogate_toNat]
  · rw [List.flatMap_map]
    simp only [isSurrogate_toNat, Bool.false_eq_true, if_false, Char.ofNat_toNat]
    exact congrArg String.ofList (List.flatMap_singleton' cs)

end SolidityLayout.Text
