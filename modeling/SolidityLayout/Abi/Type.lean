import SolidityLayout.Number.Decimal

/-!
# Types of the application binary interface

The type of a value in storage is elementary, a dynamic array or an array of fixed size.  Its text
is the text of the innermost element followed by the dimensions, innermost first.  A type has a
text unless one of its sizes is beyond the digit limit.
-/

namespace SolidityLayout

open Number

/-- The type of a value; an elementary one is given by its name. -/
inductive AbiType
  | elementary (name : String)
  | dynamicArray (element : AbiType)
  | fixedArray (size : Nat) (element : AbiType)
  deriving DecidableEq, Repr

namespace AbiType

/-- The type that stands for every user-defined type. -/
def address : AbiType := .elementary "address"

/-- The characters of a type's text. -/
def spelling : AbiType → List Char
  | elementary name => name.toList
  | dynamicArray element => element.spelling ++ ['[', ']']
  | fixedArray size element => element.spelling ++ '[' :: (decimalNat size ++ [']'])

/-- The text of a type. -/
def text (t : AbiType) : String :=
  String.ofList t.spelling

/-- Whether every size of a type can be shown. -/
def isShowable : AbiType → Bool
  | elementary _ => true
  | dynamicArray element => element.isShowable
  | fixedArray size element => element.isShowable && Number.isShowable size

/-- Put an array around a type: of the given size, or dynamic if there is none. -/
def arrayOf (element : AbiType) : Option Nat → AbiType
  | none => dynamicArray element
  | some size => fixedArray size element

end AbiType

end SolidityLayout
