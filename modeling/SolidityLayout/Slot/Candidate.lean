import SolidityLayout.Json.Equality
import SolidityLayout.Slot.Type

/-!
# Candidates for types

A candidate is what somebody offers as a type, before anything about it is known to be right.  It is
put together by constructors that check their arguments, and a candidate that turns out to be well
formed stands for a value type or a slot type.  Not every check looks inside: an array takes any
element, and whether the element is a type shows when the text of the array is asked for.
-/

namespace SolidityLayout

open Number Text

/-- Something that is offered as a type. -/
inductive Candidate
  | elementary (name : String)
  /-- A value type of which nothing is said. -/
  | unspecified
  | dynamicArray (element : Candidate)
  | fixedArray (size : Nat) (element : Candidate)
  /-- A slot with a plain value. -/
  | slotValue (type : Candidate)
  /-- A slot with a mapping. -/
  | mapping (keys : List Candidate) (value : Candidate)
  /-- Any other value. -/
  | data (value : Json)

namespace Candidate

/-- Whether the candidate has the form of a value type. -/
def isValueType : Candidate → Bool
  | elementary _ | unspecified | dynamicArray _ | fixedArray .. => true
  | _ => false

/-- Whether the candidate has the form of a slot type. -/
def isSlotType : Candidate → Bool
  | slotValue _ | mapping .. => true
  | _ => false

/-- Texts as the items of a tuple. -/
def tupleOf : List String → String
  | [item] => "(" ++ item ++ ",)"
  | items => "(" ++ Json.commaSeparated items ++ ")"

mutual

/-- A candidate as messages show it. -/
def display : Candidate → String
  | elementary name => "ElementaryType(name=" ++ quoted name ++ ")"
  | unspecified => "AbiType()"
  | dynamicArray element => "DynamicArrayType(element=" ++ display element ++ ")"
  | fixedArray size element =>
    "FixedArrayType(size=" ++ shownInt size ++ ", element=" ++ display element ++ ")"
  | slotValue type => "StorageValue(abi_type=" ++ display type ++ ")"
  | mapping keys value =>
    "StorageMapping(keys=" ++ tupleOf (displayAll keys) ++ ", value=" ++ display value ++ ")"
  | data value => value.display
termination_by structural c => c

/-- Candidates as messages show them. -/
def displayAll : List Candidate → List String
  | [] => []
  | c :: rest => display c :: displayAll rest
termination_by structural cs => cs

end

mutual

/-- Whether every integer in a candidate can be shown. -/
def isShowable : Candidate → Bool
  | dynamicArray element => isShowable element
  | fixedArray size element => Number.isShowable size && isShowable element
  | slotValue type => isShowable type
  | mapping keys value => areShowable keys && isShowable value
  | data value => value.isShowable
  | _ => true
termination_by structural c => c

/-- Whether every integer in candidates can be shown. -/
def areShowable : List Candidate → Bool
  | [] => true
  | c :: rest => isShowable c && areShowable rest
termination_by structural cs => cs

end

/-! ## Constructors that check their arguments -/

/-- Refuse a candidate, or fail because it cannot be shown. -/
def refuse (c : Candidate) (reason : String → Failure) : Failure :=
  if c.isShowable then reason c.display else .longNumber

/-- An array of fixed size; the size has to be an integer from zero on. -/
def fixedArray? (element : Candidate) (size : Json) : Except Failure Candidate :=
  let refusal := refuse (data size) fun shown => .refused (.arraySize shown)
  match size with
  | .int (.ofNat n) => .ok (fixedArray n element)
  | _ => .error refusal

/-- A slot with a plain value, which has to be a value type. -/
def slotValue? (type : Candidate) : Except Failure Candidate :=
  if type.isValueType then .ok (slotValue type)
  else .error (type.refuse fun shown => .refused (.slotValue shown))

/-- Why a candidate cannot be the key of a mapping. -/
def keyFault? (key : Candidate) : Option Failure :=
  if key.isSlotType then
    some (key.refuse fun shown => .layout (.mappingKey (.slotType shown)))
  else if key.isValueType then none
  else some (key.refuse fun shown => .refused (.mappingKey shown))

/-- A slot with a mapping, which needs a key; all keys and the value have to be value types. -/
def mapping? (keys : List Candidate) (value : Candidate) : Except Failure Candidate :=
  if keys.isEmpty then .error (.refused .noMappingKeys)
  else
    match keys.findSome? keyFault? with
    | some failure => .error failure
    | none =>
      if value.isValueType then .ok (mapping keys value)
      else .error (value.refuse fun shown => .refused (.mappingValue shown))

/-- The mapping from a key to a slot type; a slot with a plain value serves as its value. -/
def nest? (key inner : Candidate) : Except Failure Candidate :=
  match key with
  | mapping .. => .error (.layout (.mappingKey .mapping))
  | slotValue type => nestKey type
  | key => nestKey key
where
  /-- The mapping from a key that is no slot type. -/
  nestKey (key : Candidate) : Except Failure Candidate :=
    match inner with
    | mapping keys value => mapping? (key :: keys) value
    | slotValue type => mapping? [key] type
    | _ => .error .noSuchPart

/-! ## What a candidate stands for -/

/-- The value type that a candidate stands for. -/
def toAbiType : Candidate → Except Failure AbiType
  | elementary name => .ok (.elementary name)
  | unspecified => .error .abstractType
  | dynamicArray element => element.toAbiType.map .dynamicArray
  | fixedArray size element => element.toAbiType.map (.fixedArray size)
  | _ => .error .noSuchPart

/-- The value type that a candidate stands for, if it can be shown. -/
def toShowableAbiType (c : Candidate) : Except Failure AbiType :=
  match c.toAbiType with
  | .error failure => .error failure
  | .ok type => if type.isShowable then .ok type else .error .longNumber

/-- The slot type that a candidate stands for, if it can be shown.  Of several faults one in the
value counts before those in the keys, and the innermost key before the outer ones. -/
def toSlotType : Candidate → Except Failure SlotType
  | slotValue type => type.toShowableAbiType.map .ofValue
  | mapping keys value =>
    match value.toShowableAbiType with
    | .error failure => .error failure
    | .ok type => (keys.reverse.mapM toShowableAbiType).map fun keys => ⟨keys.reverse, type⟩
  | _ => .error .noSuchPart

/-- The candidate in the form of a value type. -/
def ofAbiType : AbiType → Candidate
  | .elementary name => elementary name
  | .dynamicArray element => dynamicArray (ofAbiType element)
  | .fixedArray size element => fixedArray size (ofAbiType element)

/-! ## Equality -/

mutual

/-- Whether two candidates are the same type; of an unspecified type no two are the same. -/
def isSame : Candidate → Candidate → Bool
  | elementary name, other =>
    match other with
    | elementary name' => name == name'
    | _ => false
  | unspecified, _ => false
  | dynamicArray element, other =>
    match other with
    | dynamicArray element' => isSame element element'
    | _ => false
  | fixedArray size element, other =>
    match other with
    | fixedArray size' element' => size == size' && isSame element element'
    | _ => false
  | slotValue type, other =>
    match other with
    | slotValue type' => isSame type type'
    | _ => false
  | mapping keys value, other =>
    match other with
    | mapping keys' value' => areSame keys keys' && isSame value value'
    | _ => false
  | data value, other =>
    match other with
    | data value' => value.isAlike value'
    | _ => false
termination_by structural c => c

/-- Whether two lists of candidates are the same one by one. -/
def areSame : List Candidate → List Candidate → Bool
  | [], others => others.isEmpty
  | c :: rest, others =>
    match others with
    | [] => false
    | other :: others => isSame c other && areSame rest others
termination_by structural cs => cs

end

end Candidate

end SolidityLayout
