import SolidityLayout.Abi.Type
import SolidityLayout.Failure.Basic

/-!
# Types of storage slots

A slot holds a value or a mapping.  Nested mappings are one slot type: their keys from the outermost
to the innermost, and the type of the value at the end.  A slot type without keys is a plain value.
-/

namespace SolidityLayout

/-- The type of a slot: the keys of its mappings, outermost first, and the type of its value. -/
structure SlotType where
  keys : List AbiType
  value : AbiType
  deriving DecidableEq, Repr

namespace SlotType

/-- The type of a slot that holds a plain value. -/
def ofValue (value : AbiType) : SlotType := ⟨[], value⟩

/-- Whether the slot holds a mapping. -/
def isMapping (t : SlotType) : Bool :=
  !t.keys.isEmpty

/-- The mapping from a key to a slot type. -/
def nest (key : AbiType) (inner : SlotType) : SlotType :=
  ⟨key :: inner.keys, inner.value⟩

/-- The characters of a mapping from a key to what is spelled `inner`. -/
def mappingSpelling (key : AbiType) (inner : List Char) : List Char :=
  "mapping(".toList ++ key.spelling ++ " => ".toList ++ inner ++ [')']

/-- The characters of a slot type's text. -/
def spelling (t : SlotType) : List Char :=
  t.keys.foldr mappingSpelling t.value.spelling

/-- The text of a slot type. -/
def text (t : SlotType) : String :=
  String.ofList t.spelling

/-- Whether every array size in a slot type can be shown. -/
def isShowable (t : SlotType) : Bool :=
  t.value.isShowable && t.keys.all AbiType.isShowable

/-- The text of a slot type, if it can be shown. -/
def render (t : SlotType) : Except Failure String :=
  if t.isShowable then .ok t.text else .error .longNumber

end SlotType

namespace AbiType

/-- The text of a type, if it can be shown. -/
def render (t : AbiType) : Except Failure String :=
  if t.isShowable then .ok t.text else .error .longNumber

end AbiType

end SolidityLayout
