import SolidityLayout.Proofs.Contract.Outcome
import SolidityLayout.Proofs.Slot.Classification
import SolidityLayout.Proofs.Slot.RoundTrip

/-!
# Rendered texts as normal forms

Every slot type that a type node or a text is read as has only names of the
catalogue in it.  This invariant is kept by every step of both readers, and it
is all that the round trip asks for, so that rendering what has been read gives
a text that is read as the same slot type.
-/

namespace SolidityLayout

open Ast Text Number Attempt

namespace AbiType

theorem isCatalogueName_address : Abi.IsCatalogueName address.baseName :=
  ⟨⟨_, _, .address⟩, rfl⟩

/-! ## Value types of nodes -/

theorem isCatalogueName_ofLeaf {header : Header} {t : AbiType}
    (h : ofLeaf Abi.readName header = .ok t) :
    Abi.IsCatalogueName t.baseName := by
  unfold ofLeaf at h
  split at h
  · split at h
    · exact (Abi.readName_sound h).1
    · exact (ofUnknown_ne_ok h).elim
  · cases h
    exact isCatalogueName_address
  · exact (ofUnknown_ne_ok h).elim

/-- The value type of a node has a name of the catalogue. -/
theorem isCatalogueName_ofNode {node : Node} {t : AbiType}
    (h : ofNode Abi.readName node = .ok t) :
    Abi.IsCatalogueName t.baseName := by
  -- Only a node tagged as an array has an element to go on with; any other node
  -- is a leaf, whatever children it has.
  induction node using ofNode.induct generalizing t with
  | case1 header element htag ih =>
      rw [ofNode, if_pos htag, map_eq_ok_iff] at h
      obtain ⟨u, hu, rfl⟩ := h
      have hname := ih hu
      exact hname
  | case2 header element htag =>
      rw [ofNode, if_neg htag] at h
      exact isCatalogueName_ofLeaf h
  | case3 header element size htag failure hsize =>
      rw [ofNode, if_pos htag, hsize] at h
      cases h
  | case4 header element size htag length hsize ih =>
      rw [ofNode, if_pos htag, hsize] at h
      obtain ⟨u, hu, rfl⟩ := map_eq_ok_iff.mp h
      have hname := ih hu
      exact hname
  | case5 header element size htag =>
      rw [ofNode, if_neg htag] at h
      exact isCatalogueName_ofLeaf h
  | case6 header children hone htwo =>
      rw [ofNode] at h
      · exact isCatalogueName_ofLeaf h
      · exact hone
      · exact htwo

/-! ## Value types of texts -/

/-- A size that is read can be shown, in whatever digits it is written. -/
theorem isShowable_of_sizeOf?_eq_ok {digits : List Char} {size : Option Nat}
    (h : sizeOf? digits = .ok size) :
    ∀ n ∈ size, Number.isShowable n = true := by
  unfold sizeOf? at h
  split at h
  · cases h
    simp
  · split at h
    · cases h
    · rename_i hlength
      cases h
      rintro n ⟨⟩
      apply isShowable_ofDigits
      · intro d hd
        obtain ⟨c, -, hc⟩ := List.mem_filterMap.mp hd
        exact digitValue?_lt_ten hc
      · exact Nat.le_trans (List.length_filterMap_le _ _) (Nat.not_lt.mp hlength)

/-- The value type of a text has a name of the catalogue and a text of its
own. -/
theorem ofSpelling_sound {cs : List Char} {t : AbiType}
    (h : ofSpelling Abi.readName cs = .ok t) :
    Abi.IsCatalogueName t.baseName ∧ t.isShowable = true := by
  fun_induction ofSpelling Abi.readName cs generalizing t with
  | case1 => exact Abi.readName_sound h
  | case2 => cases h
  | case3 =>
      rename_i helement ih
      obtain ⟨size, hsize, rfl⟩ := map_eq_ok_iff.mp h
      obtain ⟨hname, hshow⟩ := ih helement
      rw [baseName_arrayOf]
      exact ⟨hname, isShowable_arrayOf hshow (isShowable_of_sizeOf?_eq_ok hsize)⟩

end AbiType

namespace SlotType

/-- A slot type is normal if its names are those of elementary types. -/
def IsNormal (t : SlotType) : Prop :=
  ∀ n ∈ t.baseNames, Abi.IsCatalogueName n

theorem isNormal_ofValue {t : AbiType} (ht : Abi.IsCatalogueName t.baseName) :
    (ofValue t).IsNormal := by
  intro n hn
  obtain rfl : n = t.baseName := by simpa [baseNames, parts, ofValue] using hn
  exact ht

theorem IsNormal.nest {key inner : SlotType}
    (hkey : key.IsNormal) (hinner : inner.IsNormal) :
    (nest key.value inner).IsNormal := by
  intro n hn
  have hsplit : n = key.value.baseName ∨ n ∈ inner.baseNames := by
    simpa [baseNames, parts, SlotType.nest] using hn
  rcases hsplit with rfl | hmem
  · exact hkey _ (by simp [baseNames, parts])
  · exact hinner n hmem

theorem isShowable_nest {key inner : SlotType}
    (hkey : key.isShowable = true) (hinner : inner.isShowable = true) :
    (nest key.value inner).isShowable = true := by
  rw [isShowable, Bool.and_eq_true] at hkey
  exact (isShowable_nest_iff _ _).mpr ⟨hkey.1, hinner⟩

/-! ## Slot types of nodes -/

theorem ofMappingNodes_eq_ok {reader : TypeReader} {nodes : List Node} {t : SlotType}
    (h : ofMappingNodes reader nodes = .ok t) :
    ∃ key value k v, nodes = [key, value] ∧ ofNode reader key = .ok k ∧
      ofNode reader value = .ok v ∧ t = nest k.value v := by
  unfold ofMappingNodes at h
  split at h
  · rename_i key value
    split at h
    · cases h
    · cases h
    · rename_i k v hk hv
      split at h
      · cases h
      · cases h
        exact ⟨key, value, k, v, rfl, hk, hv, rfl⟩
  · cases h

/-- The slot type of a type node is normal. -/
theorem isNormal_ofNode (node : Node) {t : SlotType}
    (h : ofNode Abi.readName node = .ok t) : t.IsNormal := by
  cases node with
  | mk header children =>
      unfold ofNode at h
      split at h
      · cases h
      · split at h
        · -- Both parts are children of the node, so the recursion may go on there.
          obtain ⟨key, value, k, v, rfl, hk, hv, rfl⟩ := ofMappingNodes_eq_ok h
          exact (isNormal_ofNode key hk).nest (isNormal_ofNode value hv)
        · obtain ⟨u, hu, rfl⟩ := map_eq_ok_iff.mp h
          exact isNormal_ofValue (AbiType.isCatalogueName_ofNode hu)

/-! ## Slot types of texts -/

/-- The slot type of a text is normal and has a text of its own. -/
theorem ofSpelling_sound {cs : List Char} {t : SlotType}
    (h : ofSpelling Abi.readName cs = .ok t) :
    t.IsNormal ∧ t.isShowable = true := by
  fun_induction ofSpelling Abi.readName cs generalizing t with
  | case1 =>
      obtain ⟨u, hu, rfl⟩ := map_eq_ok_iff.mp h
      obtain ⟨hname, hshow⟩ := AbiType.ofSpelling_sound hu
      refine ⟨isNormal_ofValue hname, ?_⟩
      rw [isShowable, ofValue, hshow]
      rfl
  | case6 =>
      rename_i hkey hmapping ihKey ihInner
      obtain ⟨inner, hinner, rfl⟩ := map_eq_ok_iff.mp h
      obtain ⟨hkeyNormal, hkeyShow⟩ := ihKey hkey
      obtain ⟨hnormal, hshow⟩ := ihInner hinner
      exact ⟨hkeyNormal.nest hnormal, isShowable_nest hkeyShow hshow⟩
  -- Nothing is read in the other cases.
  | _ => cases h

/-! ## Normal forms -/

/-- A normal slot type is read from its text. -/
theorem IsNormal.ofSpelling_spelling {t : SlotType}
    (ht : t.IsNormal) (hshow : t.isShowable = true) :
    ofSpelling Abi.readName t.spelling = .ok t :=
  SlotType.ofSpelling_spelling
    (fun n hn => readName_of_isCatalogueName (ht n hn)) hshow

theorem IsNormal.ofSpelling_of_render_eq_ok {t : SlotType} {text : String}
    (ht : t.IsNormal) (hrender : t.render = .ok text) :
    ofSpelling Abi.readName text.toList = .ok t := by
  obtain ⟨hshow, rfl⟩ := render_eq_ok_iff.mp hrender
  rw [SlotType.text, String.toList_ofList]
  exact ht.ofSpelling_spelling hshow

/-- Read a slot type and give its text. -/
def normalize (cs : List Char) : Except Failure String :=
  (ofSpelling Abi.readName cs).bind render

theorem IsNormal.normalize_of_render_eq_ok {t : SlotType} {text : String}
    (ht : t.IsNormal) (hrender : t.render = .ok text) :
    normalize text.toList = .ok text := by
  rw [normalize, ht.ofSpelling_of_render_eq_ok hrender]
  exact hrender

end SlotType

namespace Layout

variable {lookup : NodeLookup} {locations : List Location}

theorem isNormal_of_variablesOf_eq_ok {id : Int} {vs : List StorageVariable}
    (h : variablesOf lookup Abi.readName id = .ok vs) :
    ∀ v ∈ vs, v.type.IsNormal := by
  intro v hv
  unfold variablesOf at h
  split at h
  · cases h
  · obtain ⟨declaration, -, hv⟩ := exists_of_mapM_eq_ok h hv
    obtain ⟨-, -, ht⟩ := StorageVariable.ofDeclaration_eq_ok_iff.mp hv
    unfold SlotType.ofDeclaration at ht
    split at ht
    · cases ht
    · exact SlotType.isNormal_ofNode _ ht

/-- Every variable in a layout has a normal type. -/
theorem isNormal_of_mem_contents {layout : Layout}
    (h : ofLocations lookup Abi.readName locations = .ok layout) :
    ∀ v ∈ layout.contents, v.type.IsNormal := by
  intro v hv
  unfold ofLocations at h
  split at h
  · cases h
  · split at h
    · cases h
    · obtain ⟨groups, hgroups, rfl⟩ := map_eq_ok_iff.mp h
      obtain ⟨group, hgroup, hmem⟩ := List.mem_flatten.mp hv
      obtain ⟨id, -, hid⟩ := exists_of_mapM_eq_ok hgroups hgroup
      exact isNormal_of_variablesOf_eq_ok hid v hmem

/-- The lines of a layout hold the texts of its types, each of which is read
as the type. -/
theorem forall₂_texts {lines : List String}
    (h : texts lookup Abi.readName locations = .ok lines) :
    ∃ layout, ofLocations lookup Abi.readName locations = .ok layout ∧
      List.Forall₂
        (fun v line => ∃ y, v.type.render = .ok y ∧
          line = StorageVariable.describe v.name v.owner y ∧
          SlotType.ofSpelling Abi.readName y.toList = .ok v.type)
        layout.contents lines := by
  unfold texts at h
  split at h
  · cases h
  · rename_i layout hlayout
    refine ⟨layout, hlayout, ?_⟩
    have hnormal := isNormal_of_mem_contents hlayout
    have hlines := mapM_eq_ok_iff.mp h
    have hboth := (List.forall₂_and_left _ _).mpr ⟨hnormal, hlines⟩
    refine hboth.imp ?_
    rintro v line ⟨hv, hline⟩
    obtain ⟨y, hy, hdescribe⟩ := map_eq_ok_iff.mp hline
    exact ⟨y, hy, hdescribe.symm, hv.ofSpelling_of_render_eq_ok hy⟩

/-- The lines of the layout of two truth values. -/
theorem texts_flagLookup :
    texts flagLookup Abi.readName [⟨0, 9, 0⟩] =
      .ok [StorageVariable.describe "paused" "Base" "bool",
        StorageVariable.describe "open" "Token" "bool"] := by
  obtain ⟨hbool, -⟩ := SlotType.readName_of_isCatalogueName ⟨⟨_, _, .bool⟩, rfl⟩
  have hlocated : flagLookup.atLocation? ⟨0, 9, 0⟩ =
      some (flagContract "Token" [.int 2, .int 1] "open") := rfl
  have hlayout := ofLocations_flagContract hlocated rfl hbool
  have hline (name owner : String) :
      StorageVariable.render ⟨name, owner, .ofValue (.elementary "bool")⟩ =
        .ok (StorageVariable.describe name owner "bool") :=
    map_eq_ok_iff.mpr ⟨"bool", SlotType.render_eq_ok_iff.mpr ⟨rfl, rfl⟩, rfl⟩
  rw [texts, hlayout]
  exact mapM_eq_ok_iff.mpr (.cons (hline _ _) (.cons (hline _ _) .nil))

end Layout

namespace SlotType

/-- What a type node or a text is read as has a text that is read as the same
slot type and stays as it is when normalized.  Only a size from a node can be
beyond the digit limit, and the types that a layout prints are all read from
their lines. -/
theorem render_isNormalForm :
    (∀ (node : Node) (t : SlotType), ofNode Abi.readName node = .ok t →
      ((∃ y, t.render = .ok y) ↔ ∀ n ∈ t.sizes, n < Nat.pow 10 digitLimit) ∧
      ∀ y, t.render = .ok y →
        ofSpelling Abi.readName y.toList = .ok t ∧
        normalize y.toList = .ok y) ∧
    (∀ (cs : List Char) (t : SlotType), ofSpelling Abi.readName cs = .ok t →
      ∃ y, t.render = .ok y ∧ normalize cs = .ok y ∧
        ofSpelling Abi.readName y.toList = .ok t ∧
        normalize y.toList = .ok y) ∧
    ∀ (lookup : NodeLookup) (locations : List Location) (lines : List String),
      Layout.texts lookup Abi.readName locations = .ok lines →
      ∃ layout, Layout.ofLocations lookup Abi.readName locations = .ok layout ∧
        List.Forall₂
          (fun v line => ∃ y, v.type.render = .ok y ∧
            line = StorageVariable.describe v.name v.owner y ∧
            ofSpelling Abi.readName y.toList = .ok v.type)
          layout.contents lines := by
  refine ⟨?_, ?_, ?_⟩
  · intro node t hnode
    have hnormal := isNormal_ofNode node hnode
    refine ⟨?_, ?_⟩
    · simp only [render_eq_ok_iff, exists_and_left, exists_eq', and_true,
        isShowable_iff]
    · intro y hy
      exact ⟨hnormal.ofSpelling_of_render_eq_ok hy,
        hnormal.normalize_of_render_eq_ok hy⟩
  · intro cs t hcs
    obtain ⟨hnormal, hshow⟩ := ofSpelling_sound hcs
    have hrender : t.render = .ok t.text := render_eq_ok_iff.mpr ⟨hshow, rfl⟩
    have hnormalize : normalize cs = .ok t.text := by
      rw [normalize, hcs]
      exact hrender
    exact ⟨t.text, hrender, hnormalize,
      hnormal.ofSpelling_of_render_eq_ok hrender,
      hnormal.normalize_of_render_eq_ok hrender⟩
  · intro lookup locations lines hlines
    exact Layout.forall₂_texts hlines

/-- Normal forms at a node with a hexadecimal size, at a text with a short name
and a leading zero, and at a layout of two variables. -/
theorem render_isNormalForm_array :
    ofSpelling Abi.readName
        (SlotType.mk [] (.fixedArray 31 (.elementary "uint256"))).text.toList =
      .ok ⟨[], .fixedArray 31 (.elementary "uint256")⟩ ∧
    (∃ y, normalize "uint [03] ".toList = .ok y ∧ normalize y.toList = .ok y) ∧
    ∃ layout,
      Layout.ofLocations Layout.flagLookup Abi.readName [⟨0, 9, 0⟩] = .ok layout ∧
      layout.contents.length = 2 := by
  obtain ⟨hnodes, htexts, hlayouts⟩ := render_isNormalForm
  have hlisted : Abi.IsListed "uint" (some (.size 256)) :=
    .integer (Or.inr rfl) (by decide) (by decide) (by decide)
  have hname : String.ofList ("uint".toList ++ Abi.suffixText (some (.size 256))) =
      "uint256" := by decide +kernel
  have huint : Abi.readName "uint" = .ok (.elementary "uint256") := by
    have hexpanded : Abi.expandAliases "uint".toList =
        (Abi.Elementary.name ⟨_, _, hlisted⟩).toList := by
      rw [Abi.Elementary.name, hname]
      decide
    have hread := Abi.Elementary.readName_of_expandAliases _ (by decide) hexpanded
    rwa [Abi.Elementary.name, hname] at hread
  refine ⟨?_, ?_, ?_⟩
  · have hnode : ofNode Abi.readName
        (.mk ⟨some "ArrayTypeName", none, none, []⟩
          [.mk ⟨some "ElementaryTypeName", none, none, [("type", .str "uint")]⟩ [],
            .mk ⟨some "Literal", none, none, [("value", .str "0x1F")]⟩ []]) =
        .ok ⟨[], .fixedArray 31 (.elementary "uint256")⟩ :=
      congrArg (fun attempt => (attempt.map (.fixedArray 31)).map ofValue) huint
    have hlimit : (32 : Nat) ≤ Nat.pow 10 digitLimit := by decide +kernel
    obtain ⟨hshow, hread⟩ := hnodes _ _ hnode
    have hsizes : ∀ n ∈ (SlotType.mk [] (.fixedArray 31 (.elementary "uint256"))).sizes,
        n < Nat.pow 10 digitLimit := by
      intro n hn
      obtain rfl : n = 31 := by simpa [sizes, parts, AbiType.sizes] using hn
      omega
    obtain ⟨y, hy⟩ := hshow.mpr hsizes
    obtain ⟨-, rfl⟩ := render_eq_ok_iff.mp hy
    exact (hread _ hy).1
  · have htext : ofSpelling Abi.readName "uint [03] ".toList =
        .ok (ofValue (.fixedArray 3 (.elementary "uint256"))) := by
      have hvalue : AbiType.ofSpelling Abi.readName "uint [03] ".toList =
          .ok (.fixedArray 3 (.elementary "uint256")) := by
        have hend : AbiType.lastDimension? (strip "uint [03] ".toList) =
            some ("uint ".toList, ['0', '3']) := by decide
        have hno : AbiType.lastDimension? (strip "uint ".toList) = none := by decide
        have hword : strip "uint ".toList = "uint".toList := by decide
        rw [AbiType.ofSpelling_of_lastDimension? _ hend,
          AbiType.ofSpelling_of_not_endsInDimension _
            (AbiType.lastDimension?_eq_none_iff.mp hno), hword,
          String.ofList_toList, huint]
        rfl
      rw [ofSpelling_of_afterOpening?_eq_none _ (by decide), hvalue]
      rfl
    obtain ⟨y, -, hy, -, hnormal⟩ := htexts _ _ htext
    exact ⟨y, hy, hnormal⟩
  · obtain ⟨layout, hlayout, hlines⟩ := hlayouts _ _ _ Layout.texts_flagLookup
    exact ⟨layout, hlayout, hlines.length_eq⟩

end SlotType

end SolidityLayout
