import SolidityLayout.Failure.Cause

/-!
# Failures

The errors of a layout computation, of which a run over several contracts survives each, and
beside them the failures that end a run: texts that would need too many digits, values of the
wrong kind, and arguments that a constructor refuses.
-/

namespace SolidityLayout

open Text

/-- The errors of a layout computation. -/
inductive LayoutError
  | missingDefinition (cause : MissingDefinition)
  | missingNode (id : Int)
  | malformedTree (cause : MalformedTree)
  | unreadableType (text : String) (reason : Option UnreadableType)
  | mappingKey (cause : MappingKeyFault)
  | unknownTypeNode (tag : Option String)
  | artifact (cause : ArtifactFault)

namespace LayoutError

/-- The reason of an error in parentheses; a reason without words is left out. -/
def inParentheses (reason : String) : String :=
  if reason == "" then "" else " (" ++ reason ++ ")"

/-- The error in words. -/
def message : LayoutError → String
  | missingDefinition cause => cause.message
  | missingNode id => "AST id " ++ shownInt id ++ " not found in id index"
  | malformedTree cause => "malformed AST: " ++ cause.message
  | unreadableType text reason =>
    "unparseable type name: " ++ quoted text ++
      ((reason.map fun r => inParentheses r.message).getD "")
  | mappingKey cause => cause.message
  | unknownTypeNode tag => "unknown value type node: " ++ (tag.map quoted).getD "None"
  | artifact cause => cause.message

/-- Whether the error can be put into words. -/
def isShowable : LayoutError → Bool
  | missingDefinition cause => cause.isShowable
  | missingNode id => Number.isShowable id
  | malformedTree cause => cause.isShowable
  | _ => true

end LayoutError

/-- Arguments that a constructor refuses; what is refused is given as messages show it. -/
inductive RefusedArgument
  | arraySize (shown : String)
  | noMappingKeys
  | slotValue (shown : String)
  | mappingKey (shown : String)
  | mappingValue (shown : String)

/-- The refusal in words. -/
def RefusedArgument.message : RefusedArgument → String
  | arraySize shown => "fixed array size must be a non-negative integer, got " ++ shown
  | noMappingKeys => "StorageMapping requires at least one key type"
  | slotValue shown => "StorageValue expects an AbiType, got " ++ shown
  | mappingKey shown => "mapping key must be an AbiType, got " ++ shown
  | mappingValue shown => "mapping value must be an AbiType, got " ++ shown

/-- The ways in which an operation can fail. -/
inductive Failure
  | layout (error : LayoutError)
  | refused (argument : RefusedArgument)
  /-- An integer beyond the digit limit was to be read or shown. -/
  | longNumber
  /-- A type name that matches the grammar has a number beyond the digit limit. -/
  | longTypeNumber
  /-- An integer lies outside the range of floating-point numbers. -/
  | tooLarge
  /-- A value has no such part. -/
  | noSuchPart
  /-- The type has no text of its own. -/
  | abstractType
  deriving Inhabited

namespace LayoutError

/-- Fail with an error, or for want of its words. -/
def failure (error : LayoutError) : Failure :=
  if error.isShowable then .layout error else .longNumber

end LayoutError

/-- Write a note for the trace of a run and go on.  The note is put into words whether or not the
trace is read, and an integer beyond the digit limit cannot be shown in it. -/
def noting {α : Type} (showable : Bool) (next : Except Failure α) : Except Failure α :=
  if showable then next else .error .longNumber

@[simp]
theorem noting_true {α : Type} (next : Except Failure α) : noting true next = next := rfl

@[simp]
theorem noting_false {α : Type} (next : Except Failure α) :
    noting false next = .error .longNumber := rfl

end SolidityLayout
