import SolidityLayout.Abi.Name
import SolidityLayout.Slot.ArrayLength
import SolidityLayout.Slot.Type
import SolidityLayout.Text.Blank

/-!
# Slot types of declarations

The type of a variable is a subtree of the variable's declaration.  Mappings nest to the right:
the value of a mapping may be a mapping, its key may not, and neither may the element of an array.
Every user-defined type counts as an address.  A node that describes no type is noted before it is
reported.
-/

namespace SolidityLayout

open Text Ast

namespace AbiType

/-- What comes of a node that describes no value type. -/
def ofUnknown (header : Header) : Except Failure AbiType :=
  noting header.isShowable (.error (.layout (.unknownTypeNode header.tag?)))

/-- The value type that a node without an element type describes. -/
def ofLeaf (reader : TypeReader) (header : Header) : Except Failure AbiType :=
  match header.tag? with
  | some "ElementaryTypeName" =>
    match ((header.attributes.get? "type").bind Header.text?).bind fun s => firstWord? s.toList with
    | some word => reader (String.ofList word)
    | none => ofUnknown header
  | some "UserDefinedTypeName" => .ok address
  | _ => ofUnknown header

/-- The value type that a type node describes; `reader` reads the names of elementary types. -/
def ofNode (reader : TypeReader) : Node → Except Failure AbiType
  | .mk header [element] =>
    if header.tag? = some "ArrayTypeName" then (ofNode reader element).map .dynamicArray
    else ofLeaf reader header
  | .mk header [element, size] =>
    if header.tag? = some "ArrayTypeName" then
      match ArrayLength.ofNode size with
      | .error failure => .error failure
      | .ok length => (ofNode reader element).map (.fixedArray length)
    else ofLeaf reader header
  | .mk header _ => ofLeaf reader header
termination_by structural node => node

end AbiType

namespace SlotType

mutual

/-- The slot type that a type node describes. -/
def ofNode (reader : TypeReader) : Node → Except Failure SlotType
  | .mk header children =>
    match header.tag? with
    | none => .error (LayoutError.failure (.malformedTree (.typeWithoutTag (.mk header children))))
    | some tag =>
      if tag = "Mapping" then ofMappingNodes reader children
      else (AbiType.ofNode reader (.mk header children)).map ofValue
termination_by structural node => node

/-- The slot type of the mapping whose key and value are described by the given nodes. -/
def ofMappingNodes (reader : TypeReader) : List Node → Except Failure SlotType
  | [key, value] =>
    match ofNode reader key, ofNode reader value with
    | .error failure, _ => .error failure
    | .ok _, .error failure => .error failure
    | .ok key, .ok value =>
      if key.isMapping then .error (.layout (.mappingKey .mapping)) else .ok (nest key.value value)
  | nodes => .error (LayoutError.failure (.malformedTree (.mappingChildren nodes.length)))
termination_by structural nodes => nodes

end

/-- The slot type of the variable that a node declares: that of its first child. -/
def ofDeclaration (reader : TypeReader) (node : Node) : Except Failure SlotType :=
  match node.children with
  | [] => .error (LayoutError.failure (.malformedTree (.declarationWithoutType node)))
  | type :: _ => ofNode reader type

end SlotType

end SolidityLayout
