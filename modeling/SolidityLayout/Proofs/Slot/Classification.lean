import SolidityLayout.Slot.Classify

/-!
# Equations of the classification

What a type node is classified as follows from its tag and the number of its
children.  There is one equation for each of the cases.
-/

namespace SolidityLayout

open Ast

namespace AbiType

variable {reader : TypeReader} {header : Header} {children : List Node} {element size : Node}

theorem ofUnknown_ne_ok {t : AbiType} : ofUnknown header ≠ .ok t := by
  rw [ofUnknown]
  cases header.isShowable <;> simp

theorem ofNode_of_tag_ne (htag : header.tag? ≠ some "ArrayTypeName") :
    ofNode reader (.mk header children) = ofLeaf reader header := by
  unfold ofNode
  split
  · rename_i heq
    cases heq
    rw [if_neg htag]
  · rename_i heq
    cases heq
    rw [if_neg htag]
  · rename_i heq
    cases heq
    rfl

theorem ofNode_dynamicArray (htag : header.tag? = some "ArrayTypeName") :
    ofNode reader (.mk header [element]) = (ofNode reader element).map .dynamicArray := by
  rw [ofNode, if_pos htag]

theorem ofNode_fixedArray (htag : header.tag? = some "ArrayTypeName") :
    ofNode reader (.mk header [element, size]) =
      (ArrayLength.ofNode size).bind fun length =>
        (ofNode reader element).map (.fixedArray length) := by
  rw [ofNode, if_pos htag]
  cases ArrayLength.ofNode size <;> rfl

theorem ofNode_of_length_ne (hone : children.length ≠ 1) (htwo : children.length ≠ 2) :
    ofNode reader (.mk header children) = ofLeaf reader header := by
  rw [ofNode]
  · intro element h
    exact hone (by rw [h, List.length_singleton])
  · intro element size h
    exact htwo (by rw [h, List.length_cons, List.length_singleton])

end AbiType

namespace SlotType

variable {reader : TypeReader} {header : Header} {children : List Node} {key inner : Node}

theorem ofNode_of_tag_none (htag : header.tag? = none) :
    ofNode reader (.mk header children) =
      .error (LayoutError.failure (.malformedTree (.typeWithoutTag (.mk header children)))) := by
  rw [ofNode, htag]

theorem ofNode_mapping (htag : header.tag? = some "Mapping") :
    ofNode reader (.mk header [key, inner]) =
      (ofNode reader key).bind fun k =>
        (ofNode reader inner).bind fun t =>
          if k.isMapping then .error (.layout (.mappingKey .mapping))
          else .ok (nest k.value t) := by
  rw [ofNode, htag]
  simp only [if_true, ofMappingNodes]
  cases ofNode reader key with
  | error failure => rfl
  | ok k =>
      cases ofNode reader inner with
      | error failure => rfl
      | ok t => rfl

theorem ofNode_mapping_of_length_ne (htag : header.tag? = some "Mapping")
    (htwo : children.length ≠ 2) :
    ofNode reader (.mk header children) =
      .error (LayoutError.failure (.malformedTree (.mappingChildren children.length))) := by
  rw [ofNode, htag]
  simp only [if_true]
  rw [ofMappingNodes]
  intro key inner h
  exact htwo (by rw [h, List.length_cons, List.length_singleton])

theorem ofNode_of_tag_ne {tag : String} (htag : header.tag? = some tag) (hne : tag ≠ "Mapping") :
    ofNode reader (.mk header children) =
      (AbiType.ofNode reader (.mk header children)).map ofValue := by
  rw [ofNode, htag]
  exact if_neg hne

theorem ofDeclaration_eq_head? {node : Node} :
    ofDeclaration reader node =
      match node.children.head? with
      | none => .error (LayoutError.failure (.malformedTree (.declarationWithoutType node)))
      | some type => ofNode reader type := by
  rw [ofDeclaration]
  cases node.children <;> rfl

end SlotType

end SolidityLayout
