import SolidityLayout.Proofs.Failure.Attempt
import SolidityLayout.Proofs.Slot.Classification
import SolidityLayout.Proofs.Slot.RoundTrip

/-!
# Printing types from the syntax tree

The text of a declared type can be printed from its node in one pass, without a slot
type in between: each node adds its own part around the texts of its children.  Where
the classifier collects the keys of nested mappings and the printer of slot types nests
them again, the one pass follows the tree.  Both print the same texts, and of the same
nodes.
-/

namespace SolidityLayout

open Ast Attempt Number Text

namespace TypeNode

/-- Whether the printing of a node comes to a mapping, behind any number of arrays. -/
def usesMapping : Node → Bool
  | .mk header [element] =>
    if header.tag? = some "ArrayTypeName" then usesMapping element
    else header.tag? == some "Mapping"
  | .mk header [element, _] =>
    if header.tag? = some "ArrayTypeName" then usesMapping element
    else header.tag? == some "Mapping"
  | .mk header _ => header.tag? == some "Mapping"
termination_by structural node => node

/-- Whether a node has a tag and is no mapping. -/
def canBeKey (node : Node) : Bool :=
  match node.tag? with
  | some tag => tag != "Mapping"
  | none => false

/-- The first word of the name in a header. -/
def nameWord? (header : Header) : Option (List Char) :=
  ((header.attributes.get? "type").bind Header.text?).bind fun name => firstWord? name.toList

/-- The text of a node without an element type. -/
def printLeaf? (reader : TypeReader) (header : Header) : Option String :=
  match header.tag? with
  | some "ElementaryTypeName" => do
    let word ← nameWord? header
    let type ← (reader (String.ofList word)).toOption
    type.render.toOption
  | some "UserDefinedTypeName" => some "address"
  | _ => none

/-- The decimal text of the length that a node gives. -/
def printLength? (size : Node) : Option String := do
  let length ← (ArrayLength.ofNode size).toOption
  if Number.isShowable length then some (String.ofList (decimalNat length)) else none

/-- The text of the type that a node describes, printed in one pass. -/
def print? (reader : TypeReader) : Node → Option String
  | .mk header [element] =>
    if header.tag? = some "ArrayTypeName" then
      if usesMapping element then none else do
        let text ← print? reader element
        return text ++ "[]"
    else printLeaf? reader header
  | .mk header [first, second] =>
    if header.tag? = some "Mapping" then
      if canBeKey first then do
        let key ← print? reader first
        let value ← print? reader second
        return "mapping(" ++ key ++ " => " ++ value ++ ")"
      else none
    else if header.tag? = some "ArrayTypeName" then
      if usesMapping first then none else do
        let text ← print? reader first
        let length ← printLength? second
        return text ++ "[" ++ length ++ "]"
    else printLeaf? reader header
  | .mk header _ => printLeaf? reader header
termination_by structural node => node

/-- The number of mappings in a row from a node through the nodes of their values. -/
def mappingChain : Node → Nat
  | .mk header [_, value] =>
    if header.tag? = some "Mapping" then mappingChain value + 1 else 0
  | _ => 0
termination_by structural node => node

/-! ## Forms of type nodes -/

/-- A node is no array and no mapping by the number of its children or by its tag. -/
structure IsLeaf (header : Header) (children : List Node) : Prop where
  mapping : header.tag? = some "Mapping" → children.length ≠ 2
  array : header.tag? = some "ArrayTypeName" → children.length ≠ 1 ∧ children.length ≠ 2

/-- What is proved of every type node can be proved of mappings from their keys and
values, of arrays from their elements, and of leaves. -/
@[elab_as_elim]
theorem typeInduction {motive : Node → Prop}
    (mapping : ∀ header key value, header.tag? = some "Mapping" → motive key → motive value →
      motive (.mk header [key, value]))
    (dynamicArray : ∀ header element, header.tag? = some "ArrayTypeName" → motive element →
      motive (.mk header [element]))
    (fixedArray : ∀ header element size, header.tag? = some "ArrayTypeName" → motive element →
      motive (.mk header [element, size]))
    (leaf : ∀ header children, IsLeaf header children → motive (.mk header children)) :
    (node : Node) → motive node
  | .mk header [] => leaf header [] ⟨by simp, by simp⟩
  | .mk header [element] => by
      have ih := typeInduction mapping dynamicArray fixedArray leaf element
      by_cases htag : header.tag? = some "ArrayTypeName"
      · exact dynamicArray header element htag ih
      · exact leaf header [element] ⟨by simp, fun h => (htag h).elim⟩
  | .mk header [first, second] => by
      have ih₁ := typeInduction mapping dynamicArray fixedArray leaf first
      have ih₂ := typeInduction mapping dynamicArray fixedArray leaf second
      by_cases hmapping : header.tag? = some "Mapping"
      · exact mapping header first second hmapping ih₁ ih₂
      · by_cases harray : header.tag? = some "ArrayTypeName"
        · exact fixedArray header first second harray ih₁
        · exact leaf header [first, second]
            ⟨fun h => (hmapping h).elim, fun h => (harray h).elim⟩
  | .mk header (first :: second :: third :: rest) =>
      leaf header (first :: second :: third :: rest) ⟨by simp, by simp⟩
termination_by structural node => node

namespace IsLeaf

variable {reader : TypeReader} {header : Header} {children : List Node}

theorem usesMapping (h : IsLeaf header children) :
    TypeNode.usesMapping (.mk header children) = (header.tag? == some "Mapping") := by
  unfold TypeNode.usesMapping
  split
  · rename_i heq
    cases heq
    exact if_neg fun htag => (h.array htag).1 rfl
  · rename_i heq
    cases heq
    exact if_neg fun htag => (h.array htag).2 rfl
  · rename_i heq
    cases heq
    rfl

theorem print? (h : IsLeaf header children) :
    TypeNode.print? reader (.mk header children) = printLeaf? reader header := by
  unfold TypeNode.print?
  split
  · rename_i heq
    cases heq
    exact if_neg fun htag => (h.array htag).1 rfl
  · rename_i heq
    cases heq
    rw [if_neg fun htag => h.mapping htag rfl, if_neg fun htag => (h.array htag).2 rfl]
  · rename_i heq
    cases heq
    rfl

theorem ofNode (h : IsLeaf header children) :
    AbiType.ofNode reader (.mk header children) = AbiType.ofLeaf reader header := by
  by_cases htag : header.tag? = some "ArrayTypeName"
  · exact AbiType.ofNode_of_length_ne (h.array htag).1 (h.array htag).2
  · exact AbiType.ofNode_of_tag_ne htag

end IsLeaf

theorem tag?_mk (header : Header) (children : List Node) :
    (Node.mk header children).tag? = header.tag? := rfl

theorem toOption_eq_some_iff {α : Type} {attempt : Except Failure α} {a : α} :
    attempt.toOption = some a ↔ attempt = .ok a := by
  cases attempt <;> simp [Except.toOption]

theorem printLength?_eq_some_iff {size : Node} {text : String} :
    printLength? size = some text ↔
      ∃ n : Nat, ArrayLength.ofNode size = .ok n ∧ Number.isShowable n = true ∧
        String.ofList (decimalNat n) = text := by
  simp only [printLength?, Option.bind_eq_bind, Option.bind_eq_some_iff, toOption_eq_some_iff,
    Option.ite_none_right_eq_some, Option.some.injEq]

/-- A leaf is printed as the value type that it describes. -/
theorem printLeaf?_eq_some_iff {reader : TypeReader} {header : Header} {text : String} :
    printLeaf? reader header = some text ↔
      ∃ t, AbiType.ofLeaf reader header = .ok t ∧ t.render = .ok text := by
  by_cases helementary : header.tag? = some "ElementaryTypeName"
  · cases hword : nameWord? header with
    | none =>
        have hleaf : AbiType.ofLeaf reader header = AbiType.ofUnknown header := by
          rw [nameWord?] at hword
          simp only [AbiType.ofLeaf, helementary, hword]
        simp [printLeaf?, helementary, hword, hleaf, AbiType.ofUnknown_ne_ok]
    | some word =>
        have hleaf : AbiType.ofLeaf reader header = reader (String.ofList word) := by
          rw [nameWord?] at hword
          simp only [AbiType.ofLeaf, helementary, hword]
        simp only [printLeaf?, helementary, hword, hleaf, Option.bind_eq_bind,
          Option.bind_some, Option.bind_eq_some_iff, toOption_eq_some_iff]
  · by_cases huser : header.tag? = some "UserDefinedTypeName"
    · have haddress : AbiType.address.render = .ok "address" := rfl
      simp [printLeaf?, AbiType.ofLeaf, huser, haddress]
    · simp [printLeaf?, AbiType.ofLeaf, AbiType.ofUnknown_ne_ok]

end TypeNode

namespace AbiType

variable {reader : TypeReader} {header : Header} {element size : Node} {text : String}

theorem render_eq_ok_iff {t : AbiType} :
    t.render = .ok text ↔ t.isShowable = true ∧ t.text = text := by
  rw [render]
  by_cases hshow : t.isShowable = true
  · simp [hshow]
  · simp [hshow]

theorem text_dynamicArray (t : AbiType) : (dynamicArray t).text = t.text ++ "[]" := by
  rw [text, spelling, String.ofList_append]
  rfl

theorem text_fixedArray (n : Nat) (t : AbiType) :
    (fixedArray n t).text = t.text ++ "[" ++ String.ofList (decimalNat n) ++ "]" := by
  apply String.toList_inj.mp
  simp [text, spelling]

/-- A node describes a value type that has the given text. -/
def HasText (reader : TypeReader) (node : Node) (text : String) : Prop :=
  ∃ t, ofNode reader node = .ok t ∧ t.render = .ok text

theorem hasText_dynamicArray_iff (htag : header.tag? = some "ArrayTypeName") :
    HasText reader (.mk header [element]) text ↔
      ∃ inner, HasText reader element inner ∧ inner ++ "[]" = text := by
  simp only [HasText, ofNode_dynamicArray htag, map_eq_ok_iff]
  constructor
  · intro h
    obtain ⟨t, ⟨u, hu, rfl⟩, ht⟩ := h
    obtain ⟨hshow, htext⟩ := render_eq_ok_iff.mp ht
    rw [text_dynamicArray] at htext
    exact ⟨u.text, ⟨u, hu, render_eq_ok_iff.mpr ⟨hshow, rfl⟩⟩, htext⟩
  · intro h
    obtain ⟨inner, ⟨u, hu, hinner⟩, htext⟩ := h
    obtain ⟨hshow, hutext⟩ := render_eq_ok_iff.mp hinner
    refine ⟨dynamicArray u, ⟨u, hu, rfl⟩, render_eq_ok_iff.mpr ⟨hshow, ?_⟩⟩
    rw [text_dynamicArray, hutext, htext]

theorem hasText_fixedArray_iff (htag : header.tag? = some "ArrayTypeName") :
    HasText reader (.mk header [element, size]) text ↔
      ∃ inner length, HasText reader element inner ∧
        TypeNode.printLength? size = some length ∧ inner ++ "[" ++ length ++ "]" = text := by
  simp only [HasText, ofNode_fixedArray htag, bind_eq_ok_iff, map_eq_ok_iff,
    TypeNode.printLength?_eq_some_iff]
  constructor
  · intro h
    obtain ⟨t, ⟨n, hn, u, hu, rfl⟩, ht⟩ := h
    obtain ⟨hshow, htext⟩ := render_eq_ok_iff.mp ht
    rw [isShowable, Bool.and_eq_true] at hshow
    rw [text_fixedArray] at htext
    exact ⟨u.text, _, ⟨u, hu, render_eq_ok_iff.mpr ⟨hshow.1, rfl⟩⟩, ⟨n, hn, hshow.2, rfl⟩, htext⟩
  · intro h
    obtain ⟨inner, length, ⟨u, hu, hinner⟩, ⟨n, hn, hlength, rfl⟩, htext⟩ := h
    obtain ⟨hshow, hutext⟩ := render_eq_ok_iff.mp hinner
    refine ⟨fixedArray n u, ⟨n, hn, u, hu, rfl⟩, render_eq_ok_iff.mpr ⟨?_, ?_⟩⟩
    · rw [isShowable, hshow, hlength]
      rfl
    · rw [text_fixedArray, hutext, htext]

end AbiType

/-! ## Value types -/

namespace TypeNode

variable {reader : TypeReader} {node : Node} {text : String}

theorem usesMapping_of_tag (htag : node.tag? = some "Mapping") : usesMapping node = true := by
  obtain ⟨header, children⟩ := node
  have hheader : header.tag? = some "Mapping" := htag
  match children with
  | [] => simp [usesMapping, hheader]
  | [element] => simp [usesMapping, hheader]
  | [first, second] => simp [usesMapping, hheader]
  | _ :: _ :: _ :: _ => simp [usesMapping, hheader]

theorem not_hasText_of_tag (htag : node.tag? = some "Mapping") :
    ¬AbiType.HasText reader node text := by
  obtain ⟨header, children⟩ := node
  have hheader : header.tag? = some "Mapping" := htag
  intro htext
  obtain ⟨t, ht, -⟩ := htext
  rw [AbiType.ofNode_of_tag_ne (by simp [hheader])] at ht
  simp [AbiType.ofLeaf, hheader, AbiType.ofUnknown_ne_ok] at ht

/-- A mapping is no value type, and neither is an array of one. -/
theorem not_hasText_of_usesMapping (h : usesMapping node = true) :
    ¬AbiType.HasText reader node text := by
  induction node using typeInduction generalizing text with
  | mapping header key value htag =>
      exact not_hasText_of_tag htag
  | dynamicArray header element htag ih =>
      rw [usesMapping, if_pos htag] at h
      rw [AbiType.hasText_dynamicArray_iff htag]
      intro htext
      obtain ⟨inner, hinner, -⟩ := htext
      exact ih h hinner
  | fixedArray header element size htag ih =>
      rw [usesMapping, if_pos htag] at h
      rw [AbiType.hasText_fixedArray_iff htag]
      intro htext
      obtain ⟨inner, length, hinner, -⟩ := htext
      exact ih h hinner
  | leaf header children hleaf =>
      rw [hleaf.usesMapping, beq_iff_eq] at h
      exact not_hasText_of_tag h

/-- An element is printed if no mapping is used, and such an element is a value type. -/
theorem print?_element_eq_some_iff {element : Node}
    (helement : element.tag? ≠ some "Mapping" →
      (print? reader element = some text ↔ AbiType.HasText reader element text)) :
    ¬usesMapping element = true ∧ print? reader element = some text ↔
      AbiType.HasText reader element text := by
  by_cases huse : usesMapping element = true
  · simp only [huse, not_true, false_and, not_hasText_of_usesMapping huse]
  · rw [helement fun htag => huse (usesMapping_of_tag htag)]
    exact and_iff_right huse

/-- A node that is no mapping is printed as the value type that it describes. -/
theorem print?_eq_some_iff_of_tag_ne (htag : node.tag? ≠ some "Mapping") :
    print? reader node = some text ↔ AbiType.HasText reader node text := by
  induction node using typeInduction generalizing text with
  | mapping header key value hmapping => exact (htag hmapping).elim
  | dynamicArray header element harray ih =>
      rw [AbiType.hasText_dynamicArray_iff harray, print?, if_pos harray]
      simp [← print?_element_eq_some_iff ih, Option.bind_eq_some_iff, and_assoc]
  | fixedArray header element size harray ih =>
      have hno : header.tag? ≠ some "Mapping" := htag
      rw [AbiType.hasText_fixedArray_iff harray, print?, if_neg hno, if_pos harray]
      simp [← print?_element_eq_some_iff ih, Option.bind_eq_some_iff, and_assoc]
  | leaf header children hleaf =>
      rw [hleaf.print?, AbiType.HasText, hleaf.ofNode, printLeaf?_eq_some_iff]

theorem canBeKey_eq_true_iff :
    canBeKey node = true ↔ ∃ tag, node.tag? = some tag ∧ tag ≠ "Mapping" := by
  rw [canBeKey]
  cases node.tag? <;> simp

theorem tag_ne_of_canBeKey (h : canBeKey node = true) : node.tag? ≠ some "Mapping" := by
  obtain ⟨tag, htag, hne⟩ := canBeKey_eq_true_iff.mp h
  rw [htag]
  simpa using hne

end TypeNode

/-! ## Slot types -/

namespace SlotType

variable {reader : TypeReader} {header : Header} {children : List Node} {node key value : Node}
  {text : String}

/-- A node describes a slot type that has the given text. -/
def HasText (reader : TypeReader) (node : Node) (text : String) : Prop :=
  ∃ t, ofNode reader node = .ok t ∧ t.render = .ok text

theorem ofNode_of_canBeKey (h : TypeNode.canBeKey node = true) :
    ofNode reader node = (AbiType.ofNode reader node).map ofValue := by
  obtain ⟨tag, htag, hne⟩ := TypeNode.canBeKey_eq_true_iff.mp h
  obtain ⟨header, children⟩ := node
  exact ofNode_of_tag_ne htag hne

theorem render_ofValue (t : AbiType) : (ofValue t).render = t.render := by
  simp [render, AbiType.render, ofValue, isShowable, text, AbiType.text, spelling]

theorem hasText_iff_of_canBeKey (h : TypeNode.canBeKey node = true) :
    HasText reader node text ↔ AbiType.HasText reader node text := by
  simp only [HasText, AbiType.HasText, ofNode_of_canBeKey h, map_eq_ok_iff]
  constructor
  · intro htext
    obtain ⟨t, ⟨u, hu, rfl⟩, ht⟩ := htext
    exact ⟨u, hu, by rwa [render_ofValue] at ht⟩
  · intro htext
    obtain ⟨u, hu, ht⟩ := htext
    exact ⟨ofValue u, ⟨u, hu, rfl⟩, by rwa [render_ofValue]⟩

/-- The two nodes of a mapping describe what the mapping is put together from. -/
theorem ofNode_mapping_eq_ok_iff (htag : header.tag? = some "Mapping") {t : SlotType} :
    ofNode reader (.mk header [key, value]) = .ok t ↔
      ∃ k v, ofNode reader key = .ok k ∧ ofNode reader value = .ok v ∧
        k.isMapping = false ∧ nest k.value v = t := by
  simp only [ofNode_mapping htag, bind_eq_ok_iff]
  constructor
  · intro h
    obtain ⟨k, hk, v, hv, ht⟩ := h
    by_cases hmapping : k.isMapping = true
    · simp [hmapping] at ht
    · rw [if_neg hmapping] at ht
      exact ⟨k, v, hk, hv, by simpa using hmapping, by simpa using ht⟩
  · intro h
    obtain ⟨k, v, hk, hv, hmapping, rfl⟩ := h
    exact ⟨k, hk, v, hv, by simp [hmapping]⟩

/-- What a mapping of the syntax tree describes has keys. -/
theorem isMapping_of_tag (htag : node.tag? = some "Mapping") {t : SlotType}
    (ht : ofNode reader node = .ok t) : t.isMapping = true := by
  obtain ⟨header, children⟩ := node
  by_cases htwo : children.length = 2
  · obtain ⟨key, value, rfl⟩ := List.length_eq_two.mp htwo
    obtain ⟨k, v, -, -, -, rfl⟩ := (ofNode_mapping_eq_ok_iff htag).mp ht
    rfl
  · rw [TypeNode.tag?_mk] at htag
    rw [ofNode_mapping_of_length_ne htag htwo] at ht
    cases ht

/-- A node describes a slot type without keys just if it can be the key of a mapping and
describes a value type. -/
theorem ofNode_eq_ok_and_isMapping_iff {t : SlotType} :
    ofNode reader node = .ok t ∧ t.isMapping = false ↔
      TypeNode.canBeKey node = true ∧ ∃ u, AbiType.ofNode reader node = .ok u ∧ ofValue u = t := by
  by_cases hkey : TypeNode.canBeKey node = true
  · simp only [ofNode_of_canBeKey hkey, map_eq_ok_iff, hkey, true_and, and_iff_left_iff_imp]
    intro h
    obtain ⟨u, -, rfl⟩ := h
    rfl
  · simp only [hkey, false_and, iff_false, Bool.false_eq_true]
    intro h
    cases htag : node.tag? with
    | none =>
        obtain ⟨header, children⟩ := node
        rw [TypeNode.tag?_mk] at htag
        rw [ofNode_of_tag_none htag] at h
        cases h.1
    | some tag =>
        have hmapping : tag = "Mapping" := by simpa [TypeNode.canBeKey, htag] using hkey
        rw [hmapping] at htag
        rw [isMapping_of_tag htag h.1] at h
        cases h.2

theorem text_nest (k : AbiType) (t : SlotType) :
    (nest k t).text = "mapping(" ++ k.text ++ " => " ++ t.text ++ ")" := by
  apply String.toList_inj.mp
  simp only [text, AbiType.text, String.toList_append, String.toList_ofList]
  rfl

theorem hasText_mapping_iff (htag : header.tag? = some "Mapping") :
    HasText reader (.mk header [key, value]) text ↔
      TypeNode.canBeKey key = true ∧ ∃ k v, AbiType.HasText reader key k ∧
        HasText reader value v ∧ "mapping(" ++ k ++ " => " ++ v ++ ")" = text := by
  constructor
  · intro h
    obtain ⟨t, ht, hrender⟩ := h
    obtain ⟨k, v, hk, hv, hmapping, rfl⟩ := (ofNode_mapping_eq_ok_iff htag).mp ht
    obtain ⟨hkey, u, hu, rfl⟩ := ofNode_eq_ok_and_isMapping_iff.mp ⟨hk, hmapping⟩
    obtain ⟨hshow, htext⟩ := render_eq_ok_iff.mp hrender
    obtain ⟨hushow, hvshow⟩ := (isShowable_nest_iff u v).mp hshow
    rw [ofValue, text_nest] at htext
    exact ⟨hkey, u.text, v.text, ⟨u, hu, AbiType.render_eq_ok_iff.mpr ⟨hushow, rfl⟩⟩,
      ⟨v, hv, render_eq_ok_iff.mpr ⟨hvshow, rfl⟩⟩, htext⟩
  · intro h
    obtain ⟨hkey, k, v, ⟨u, hu, hk⟩, ⟨w, hw, hv⟩, htext⟩ := h
    obtain ⟨hushow, hutext⟩ := AbiType.render_eq_ok_iff.mp hk
    obtain ⟨hwshow, hwtext⟩ := render_eq_ok_iff.mp hv
    obtain ⟨hofNode, hmapping⟩ := ofNode_eq_ok_and_isMapping_iff.mpr ⟨hkey, u, hu, rfl⟩
    refine ⟨nest u w,
      (ofNode_mapping_eq_ok_iff htag).mpr ⟨ofValue u, w, hofNode, hw, hmapping, rfl⟩,
      render_eq_ok_iff.mpr ⟨(isShowable_nest_iff u w).mpr ⟨hushow, hwshow⟩, ?_⟩⟩
    rw [text_nest, hutext, hwtext, htext]

/-- A leaf that describes a slot type can be a key. -/
theorem canBeKey_of_ofNode_eq_ok (hleaf : TypeNode.IsLeaf header children) {t : SlotType}
    (ht : ofNode reader (.mk header children) = .ok t) :
    TypeNode.canBeKey (.mk header children) = true := by
  cases htag : header.tag? with
  | none =>
      rw [ofNode_of_tag_none htag] at ht
      cases ht
  | some tag =>
      by_cases hmapping : tag = "Mapping"
      · rw [hmapping] at htag
        rw [ofNode_mapping_of_length_ne htag (hleaf.mapping htag)] at ht
        cases ht
      · exact TypeNode.canBeKey_eq_true_iff.mpr ⟨tag, htag, hmapping⟩

end SlotType

namespace TypeNode

variable {reader : TypeReader} {node : Node} {text : String}

theorem canBeKey_of_array {header : Header} {children : List Node}
    (htag : header.tag? = some "ArrayTypeName") : canBeKey (.mk header children) = true :=
  canBeKey_eq_true_iff.mpr ⟨_, htag, by decide⟩

theorem canBeKey_of_printLeaf? {header : Header} {children : List Node}
    (h : printLeaf? reader header = some text) : canBeKey (.mk header children) = true := by
  rw [printLeaf?] at h
  split at h
  · rename_i htag
    exact canBeKey_eq_true_iff.mpr ⟨_, htag, by decide⟩
  · rename_i htag
    exact canBeKey_eq_true_iff.mpr ⟨_, htag, by decide⟩
  · cases h

theorem print?_eq_some_iff_of_canBeKey (h : canBeKey node = true) :
    print? reader node = some text ↔ SlotType.HasText reader node text := by
  rw [print?_eq_some_iff_of_tag_ne (tag_ne_of_canBeKey h), SlotType.hasText_iff_of_canBeKey h]

/-- A node is printed in one pass just if it describes a slot type that can be rendered,
and with the same text. -/
theorem print?_eq_some_iff :
    print? reader node = some text ↔ SlotType.HasText reader node text := by
  induction node using typeInduction generalizing text with
  | mapping header key value htag ihkey ihvalue =>
      rw [SlotType.hasText_mapping_iff htag, print?, if_pos htag]
      by_cases hkey : canBeKey key = true
      · simp [hkey, Option.bind_eq_some_iff, ihvalue,
          print?_eq_some_iff_of_tag_ne (tag_ne_of_canBeKey hkey)]
      · simp [hkey]
  | dynamicArray header element htag ih =>
      exact print?_eq_some_iff_of_canBeKey (canBeKey_of_array htag)
  | fixedArray header element size htag ih =>
      exact print?_eq_some_iff_of_canBeKey (canBeKey_of_array htag)
  | leaf header children hleaf =>
      by_cases hkey : canBeKey (.mk header children) = true
      · exact print?_eq_some_iff_of_canBeKey hkey
      · rw [hleaf.print?]
        constructor
        · intro hprint
          exact (hkey (canBeKey_of_printLeaf? hprint)).elim
        · intro htext
          obtain ⟨t, ht, -⟩ := htext
          exact (hkey (SlotType.canBeKey_of_ofNode_eq_ok hleaf ht)).elim

theorem mappingChain_of_canBeKey (h : canBeKey node = true) : mappingChain node = 0 := by
  have htag := tag_ne_of_canBeKey h
  unfold mappingChain
  split
  · exact if_neg htag
  · rfl

theorem length_keys_of_canBeKey (h : canBeKey node = true) {t : SlotType}
    (ht : SlotType.ofNode reader node = .ok t) : t.keys.length = mappingChain node := by
  rw [SlotType.ofNode_of_canBeKey h, map_eq_ok_iff] at ht
  obtain ⟨u, -, rfl⟩ := ht
  rw [mappingChain_of_canBeKey h]
  rfl

/-- A node describes a slot type with as many keys as there are mappings in a row. -/
theorem length_keys {t : SlotType} (ht : SlotType.ofNode reader node = .ok t) :
    t.keys.length = mappingChain node := by
  induction node using typeInduction generalizing t with
  | mapping header key value htag ihkey ihvalue =>
      obtain ⟨k, v, -, hv, -, rfl⟩ := (SlotType.ofNode_mapping_eq_ok_iff htag).mp ht
      rw [mappingChain, if_pos htag, ← ihvalue hv]
      rfl
  | dynamicArray header element htag ih =>
      exact length_keys_of_canBeKey (canBeKey_of_array htag) ht
  | fixedArray header element size htag ih =>
      exact length_keys_of_canBeKey (canBeKey_of_array htag) ht
  | leaf header children hleaf =>
      exact length_keys_of_canBeKey (SlotType.canBeKey_of_ofNode_eq_ok hleaf ht) ht

/-- Printing a node in one pass gives a text exactly if the node describes a slot type
that can be rendered, and then gives the rendered text.  The keys of the slot type are
as many as the mappings in a row from the node through the values. -/
theorem print?_eq_render (reader : TypeReader) (node : Node) :
    (∀ text, print? reader node = some text ↔
      ∃ t, SlotType.ofNode reader node = .ok t ∧ t.render = .ok text) ∧
    ∀ t, SlotType.ofNode reader node = .ok t → t.keys.length = mappingChain node := by
  constructor
  · intro text
    exact print?_eq_some_iff
  · intro t ht
    exact length_keys ht

/-- A mapping from names to mappings from addresses to arrays of three dates. -/
def datesByName : Node :=
  .mk ⟨some "Mapping", none, none, []⟩
    [.mk ⟨some "ElementaryTypeName", none, none, [("type", .str "string storage ref")]⟩ [],
      .mk ⟨some "Mapping", none, none, []⟩
        [.mk ⟨some "ElementaryTypeName", none, none, [("type", .str "address payable")]⟩ [],
          .mk ⟨some "ArrayTypeName", none, none, []⟩
            [.mk ⟨some "UserDefinedTypeName", none, none, [("name", .str "Date")]⟩ [],
              .mk ⟨some "Literal", none, none, [("value", .str "0x3")]⟩ []]]]

/-- The printing of nested mappings in one pass, and the number of their keys, for the
reader that takes every name for a type. -/
theorem print?_eq_render_datesByName :
    print? (fun name => .ok (.elementary name)) datesByName =
      some "mapping(string => mapping(address => address[3]))" ∧
    ∃ t, SlotType.ofNode (fun name => .ok (.elementary name)) datesByName = .ok t ∧
      t.keys.length = 2 := by
  have htype : SlotType.ofNode (fun name => .ok (.elementary name)) datesByName =
      .ok ⟨[.elementary "string", .elementary "address"],
        .fixedArray 3 (.elementary "address")⟩ := by
    rfl
  have hrender : (SlotType.mk [.elementary "string", .elementary "address"]
      (.fixedArray 3 (.elementary "address"))).render =
        .ok "mapping(string => mapping(address => address[3]))" := by
    refine SlotType.render_eq_ok_iff.mpr ⟨?_, by decide⟩
    decide +kernel
  obtain ⟨hprint, hkeys⟩ := print?_eq_render (fun name => .ok (.elementary name)) datesByName
  constructor
  · exact (hprint _).mpr ⟨_, htype, hrender⟩
  · exact ⟨_, htype, hkeys _ htype⟩

end TypeNode

end SolidityLayout
