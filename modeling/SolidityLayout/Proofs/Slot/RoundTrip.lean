import SolidityLayout.Proofs.Abi.NameReading
import SolidityLayout.Proofs.Slot.SlotSpelling

/-!
# Reading what has been rendered

The text of a slot type is read as that slot type, for every reader of names
that reads the names in it as themselves and every name that the readers of
longer texts take whole.  The names of the catalogue are such names for the
reader of the application binary interface.
-/

namespace SolidityLayout

open Text Number

namespace AbiType

/-- The sizes of the fixed arrays in a type. -/
def sizes : AbiType → List Nat
  | elementary _ => []
  | dynamicArray element => element.sizes
  | fixedArray size element => size :: element.sizes

theorem isShowable_iff (t : AbiType) :
    t.isShowable = true ↔ ∀ n ∈ t.sizes, n < Nat.pow 10 digitLimit := by
  induction t with
  | elementary name => simp [isShowable, sizes]
  | dynamicArray element ih => exact ih
  | fixedArray size element ih =>
      rw [isShowable, Bool.and_eq_true, ih, isShowable_natCast_iff, sizes,
        List.forall_mem_cons, and_comm]

/-- The text of a type adds only digits and brackets to the innermost name. -/
theorem mem_spelling {t : AbiType} {c : Char} (hc : c ∈ t.spelling) :
    c ∈ t.baseName.toList ∨ isDigit c = true ∨ c = '[' ∨ c = ']' := by
  induction t with
  | elementary name => exact Or.inl hc
  | dynamicArray element ih =>
      rw [spelling, List.mem_append] at hc
      rcases hc with hc | hc
      · exact ih hc
      · simp only [List.mem_cons, List.not_mem_nil, or_false] at hc
        exact Or.inr (Or.inr hc)
  | fixedArray size element ih =>
      simp only [spelling, List.mem_append, List.mem_cons, List.not_mem_nil,
        or_false] at hc
      rcases hc with hc | hc | hc | hc
      · exact ih hc
      · exact Or.inr (Or.inr (Or.inl hc))
      · exact Or.inr (Or.inl (isDigit_of_mem_decimalNat hc))
      · exact Or.inr (Or.inr (Or.inr hc))

end AbiType

namespace SlotType

/-! ## Plain names -/

/-- A name that is taken whole wherever it stands in the text of a slot
type. -/
structure IsPlainName (name : List Char) : Prop extends AbiType.IsAtomic name where
  noOpening : '(' ∉ name
  noClosing : ')' ∉ name
  noArrow : ¬['=', '>'] <:+: name

theorem isPlainName_of_isCatalogueName
    {name : String} (h : Abi.IsCatalogueName name) :
    IsPlainName name.toList := by
  obtain ⟨e, rfl⟩ := h
  refine ⟨e.isAtomic_name, e.not_mem_name (by decide) (by decide),
    e.not_mem_name (by decide) (by decide), ?_⟩
  intro harrow
  exact e.not_mem_name (by decide) (by decide)
    (harrow.subset (List.mem_cons_self : '=' ∈ ['=', '>']))

theorem not_mem_spelling {t : AbiType} {c : Char}
    (hname : c ∉ t.baseName.toList) (hdigit : isDigit c = false)
    (hopen : c ≠ '[') (hclose : c ≠ ']') :
    c ∉ t.spelling := by
  intro hc
  rcases AbiType.mem_spelling hc with h | h | h | h
  · exact hname h
  · rw [hdigit] at h
    cases h
  · exact hopen h
  · exact hclose h

/-- An arrow does not reach into a text that holds no `>`. -/
theorem arrow_infix_of_append {front back : List Char} (hback : '>' ∉ back)
    (harrow : ['=', '>'] <:+: front ++ back) : ['=', '>'] <:+: front := by
  obtain ⟨before, after, heq⟩ := harrow
  rcases List.append_eq_append_iff.mp heq with ⟨mid, hfront, -⟩ | ⟨mid, hmid, hrest⟩
  · rw [hfront]
    exact ⟨before, mid, rfl⟩
  · cases hlast : mid.getLast? with
    | none =>
        rw [List.getLast?_eq_none_iff] at hlast
        rw [hlast, List.append_nil] at hmid
        exact ⟨before, [], by rw [List.append_nil, hmid]⟩
    | some c =>
        have hc : c = '>' := by
          have h := congrArg List.getLast? hmid
          rw [List.getLast?_append, List.getLast?_append, hlast] at h
          simpa using h.symm
        refine (hback ?_).elim
        rw [hrest, ← hc]
        exact List.mem_append_left _ (List.mem_of_getLast? hlast)

theorem gt_not_mem_dimensionSpelling (size : Option Nat) :
    '>' ∉ AbiType.dimensionSpelling size := by
  cases size with
  | none => decide
  | some n =>
      intro h
      simp only [AbiType.dimensionSpelling, Option.map_some, Option.getD_some,
        List.mem_cons, List.mem_append, List.not_mem_nil, or_false] at h
      rcases h with h | h | h
      · exact absurd h (by decide)
      · exact absurd (isDigit_of_mem_decimalNat h) (by decide)
      · exact absurd h (by decide)

theorem not_arrow_infix_spelling {t : AbiType}
    (ht : ¬['=', '>'] <:+: t.baseName.toList) : ¬['=', '>'] <:+: t.spelling := by
  induction t with
  | elementary name => exact ht
  | dynamicArray element ih =>
      intro harrow
      exact ih ht (arrow_infix_of_append (gt_not_mem_dimensionSpelling none) harrow)
  | fixedArray size element ih =>
      intro harrow
      exact ih ht
        (arrow_infix_of_append (gt_not_mem_dimensionSpelling (some size)) harrow)

/-- The text of a type with a plain name can be the key of a mapping. -/
theorem isEnclosed_spelling {t : AbiType} (ht : IsPlainName t.baseName.toList) :
    IsEnclosed t.spelling where
  depth := depth_eq_zero_of_not_mem
    (not_mem_spelling ht.noOpening (by decide) (by decide) (by decide))
    (not_mem_spelling ht.noClosing (by decide) (by decide) (by decide))
  noArrow := by
    rintro i ⟨harrow, -⟩
    exact not_arrow_infix_spelling ht.noArrow
      (harrow.isInfix.trans (List.drop_suffix i _).isInfix)

/-! ## Round trip -/

/-- The value types that a slot type is put together from. -/
def parts (t : SlotType) : List AbiType :=
  t.keys ++ [t.value]

/-- The names of the elementary types in a slot type. -/
def baseNames (t : SlotType) : List String :=
  t.parts.map AbiType.baseName

/-- The sizes of the fixed arrays in a slot type. -/
def sizes (t : SlotType) : List Nat :=
  t.parts.flatMap AbiType.sizes

theorem isShowable_iff_parts (t : SlotType) :
    t.isShowable = true ↔ ∀ p ∈ t.parts, p.isShowable = true := by
  rw [isShowable, Bool.and_eq_true, List.all_eq_true, parts,
    List.forall_mem_append, List.forall_mem_singleton, and_comm]

theorem isShowable_iff (t : SlotType) :
    t.isShowable = true ↔ ∀ n ∈ t.sizes, n < Nat.pow 10 digitLimit := by
  simp only [isShowable_iff_parts, AbiType.isShowable_iff, sizes,
    List.mem_flatMap]
  constructor
  · rintro h n ⟨p, hp, hn⟩
    exact h p hp n hn
  · intro h p hp n hn
    exact h n ⟨p, hp, hn⟩

theorem isShowable_nest_iff (k : AbiType) (t : SlotType) :
    (nest k t).isShowable = true ↔ k.isShowable = true ∧ t.isShowable = true := by
  simp only [isShowable, nest, List.all_cons, Bool.and_eq_true]
  tauto

theorem render_eq_ok_iff {t : SlotType} {text : String} :
    t.render = .ok text ↔ t.isShowable = true ∧ t.text = text := by
  rw [render]
  split
  · rename_i h
    simp [h]
  · rename_i h
    simp [h]

/-- A value type is read as a slot type without keys. -/
theorem ofSpelling_spelling_ofValue
    {reader : TypeReader} {t : AbiType}
    (hread : reader t.baseName = .ok (.elementary t.baseName))
    (hplain : IsPlainName t.baseName.toList)
    (hshow : t.isShowable = true) :
    ofSpelling reader t.spelling = .ok (ofValue t) := by
  have hopen : '(' ∉ t.spelling :=
    not_mem_spelling hplain.noOpening (by decide) (by decide) (by decide)
  have hvalue : afterOpening? (strip t.spelling) = none := by
    rw [AbiType.strip_spelling hplain.stripped]
    exact afterOpening?_eq_none_of_not_mem hopen
  rw [ofSpelling_of_afterOpening?_eq_none reader hvalue,
    AbiType.ofSpelling_spelling hread hplain.toIsAtomic hshow]
  rfl

/-- The text of a slot type is read as that slot type by every reader of names
that reads its names as themselves. -/
theorem ofSpelling_spelling
    {reader : TypeReader} {t : SlotType}
    (hnames : ∀ n ∈ t.baseNames,
      reader n = .ok (.elementary n) ∧ IsPlainName n.toList)
    (hshow : t.isShowable = true) :
    ofSpelling reader t.spelling = .ok t := by
  rw [isShowable_iff_parts] at hshow
  obtain ⟨keys, value⟩ := t
  have hpart : ∀ p ∈ (SlotType.mk keys value).parts,
      ofSpelling reader p.spelling = .ok (ofValue p) ∧
        IsPlainName p.baseName.toList := by
    intro p hp
    obtain ⟨hread, hplain⟩ := hnames p.baseName (List.mem_map_of_mem hp)
    exact ⟨ofSpelling_spelling_ofValue hread hplain (hshow p hp), hplain⟩
  clear hnames hshow
  -- The inner mapping has the same parts less the key, so the facts about
  -- parts are all that the induction carries.
  induction keys with
  | nil => exact (hpart value (by simp [parts])).1
  | cons key rest ih =>
      obtain ⟨hkey, hplain⟩ := hpart key (by simp [parts])
      have hrest := ih fun p hp => hpart p (by simpa [parts] using Or.inr hp)
      calc
        ofSpelling reader (SlotType.mk (key :: rest) value).spelling =
            nestRead reader (ofValue key) (SlotType.mk rest value).spelling := by
          rw [spelling_cons,
            ofSpelling_mappingText reader _ (isEnclosed_spelling hplain), hkey]
          rfl
        _ = (ofSpelling reader (SlotType.mk rest value).spelling).map (nest key) :=
          rfl
        _ = .ok ⟨key :: rest, value⟩ := by
          rw [hrest]
          rfl

/-- Every name of the catalogue is read as itself and taken whole. -/
theorem readName_of_isCatalogueName
    {name : String} (h : Abi.IsCatalogueName name) :
    Abi.readName name = .ok (.elementary name) ∧ IsPlainName name.toList := by
  refine ⟨?_, isPlainName_of_isCatalogueName h⟩
  obtain ⟨e, rfl⟩ := h
  exact e.readName_name

theorem exists_render_eq_ok
    {reader : TypeReader} {t : SlotType}
    (hnames : ∀ n ∈ t.baseNames,
      reader n = .ok (.elementary n) ∧ IsPlainName n.toList)
    (hsizes : ∀ n ∈ t.sizes, n < Nat.pow 10 digitLimit) :
    ∃ text, t.render = .ok text ∧ ofSpelling reader text.toList = .ok t := by
  have hshow := (isShowable_iff t).mpr hsizes
  refine ⟨t.text, render_eq_ok_iff.mpr ⟨hshow, rfl⟩, ?_⟩
  rw [text, String.toList_ofList]
  exact ofSpelling_spelling hnames hshow

/-- Rendering a slot type and reading the text gives the slot type, for any
reader of names under which its names stand for themselves, and so for the
reader of the application binary interface and the names of the catalogue. -/
theorem ofSpelling_render :
    (∀ (reader : TypeReader) (t : SlotType),
      (∀ n ∈ t.baseNames,
        reader n = .ok (.elementary n) ∧ IsPlainName n.toList) →
      (∀ n ∈ t.sizes, n < Nat.pow 10 digitLimit) →
      ∃ text, t.render = .ok text ∧
        ofSpelling reader text.toList = .ok t) ∧
    ∀ t : SlotType,
      (∀ n ∈ t.baseNames, Abi.IsCatalogueName n) →
      (∀ n ∈ t.sizes, n < Nat.pow 10 digitLimit) →
      ∃ text, t.render = .ok text ∧
        ofSpelling Abi.readName text.toList = .ok t := by
  constructor
  · intro reader t hnames hsizes
    exact exists_render_eq_ok hnames hsizes
  · intro t hlisted hsizes
    have hnames : ∀ n ∈ t.baseNames,
        Abi.readName n = .ok (.elementary n) ∧ IsPlainName n.toList :=
      fun n hn => readName_of_isCatalogueName (hlisted n hn)
    exact exists_render_eq_ok hnames hsizes

/-- The round trip at a mapping with blanks, brackets and an `=` in its names,
and at one with names of the catalogue. -/
theorem ofSpelling_render_mapping :
    (∃ text,
      (SlotType.mk [.fixedArray 3 (.elementary "token id"), .elementary "a[k]="]
        (.dynamicArray (.elementary "Entry"))).render = .ok text ∧
      ofSpelling (fun name => .ok (.elementary name)) text.toList =
        .ok ⟨[.fixedArray 3 (.elementary "token id"), .elementary "a[k]="],
          .dynamicArray (.elementary "Entry")⟩) ∧
    ∃ text,
      (SlotType.mk [.elementary "address"]
        (.fixedArray 7 (.elementary "uint256"))).render = .ok text ∧
      ofSpelling Abi.readName text.toList =
        .ok ⟨[.elementary "address"], .fixedArray 7 (.elementary "uint256")⟩ := by
  have hplain : ∀ n ∈ ["token id", "a[k]=", "Entry"], IsPlainName n.toList := by
    intro n hn
    refine ⟨⟨?_, ?_⟩, ?_, ?_, ?_⟩
    · revert n
      decide
    · rw [← AbiType.lastDimension?_eq_none_iff]
      revert n
      decide
    · revert n
      decide
    · revert n
      decide
    · intro harrow
      have hno : ∀ m ∈ ["token id", "a[k]=", "Entry"], '>' ∉ m.toList := by decide
      exact hno n hn (harrow.subset (by decide))
  have hlisted : ∀ n ∈ ["address", "uint256"], Abi.IsCatalogueName n := by
    have hword : Abi.IsListed "uint" (some (.size 256)) :=
      .integer (Or.inr rfl) (by decide) (by decide) (by decide)
    have hname : String.ofList ("uint".toList ++ Abi.suffixText (some (.size 256))) =
        "uint256" := by decide +kernel
    intro n hn
    simp only [List.mem_cons, List.not_mem_nil, or_false] at hn
    rcases hn with rfl | rfl
    · exact ⟨⟨_, _, .address⟩, rfl⟩
    · exact ⟨⟨_, _, hword⟩, hname⟩
  have hlimit : (10 : Nat) ≤ Nat.pow 10 digitLimit :=
    pow_ten_le (a := 1) (by decide)
  constructor
  · refine ofSpelling_render.1 _ _ (fun n hn => ⟨rfl, hplain n hn⟩) ?_
    intro n hn
    obtain rfl : n = 3 := by simpa [sizes, parts, AbiType.sizes] using hn
    omega
  · refine ofSpelling_render.2 _ hlisted ?_
    intro n hn
    obtain rfl : n = 7 := by simpa [sizes, parts, AbiType.sizes] using hn
    omega

end SlotType

end SolidityLayout
