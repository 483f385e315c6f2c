import SolidityLayout.Abi.Rules
import SolidityLayout.Ast.Node

/-!
# Causes of failures

What can be wrong with compiler output, with a type name or with a mapping, case by case, and the
words in which each cause is reported.  A cause that shows a value can only be reported if the
value can be shown.  Each family has a case for a cause that is stated in words.
-/

namespace SolidityLayout

open Number Text Ast

/-- An integer as it stands in a message. -/
def shownInt (n : Int) : String :=
  String.ofList (decimal n)

/-- Why a contract has no definition. -/
inductive MissingDefinition
  | unspecified
  | emptySourceMap
  | noNodeAt (location : Location)
  | stated (text : String)

namespace MissingDefinition

/-- The cause in words. -/
def message : MissingDefinition → String
  | unspecified => "no contract definition AST"
  | emptySourceMap => "empty creation source map"
  | noNodeAt location => "no AST node at source location " ++ location.text
  | stated text => text

/-- Whether the cause can be put into words. -/
def isShowable : MissingDefinition → Bool
  | noNodeAt location => location.isShowable
  | _ => true

end MissingDefinition

/-- In what way a syntax tree does not have the expected form. -/
inductive MalformedTree
  | declarationWithoutType (node : Node)
  | typeWithoutTag (node : Node)
  | mappingChildren (count : Nat)
  | lengthNotLiteral (node : Node)
  | lengthWithoutValue (node : Node)
  | lengthNotNumeric (value : Json)
  | negativeLength (length : Int)
  | basesNotListed (value : Json)
  | baseNotNumeric (entry : Json)
  | contractWithoutName (id : Int)
  | variableWithoutName (owner : String) (node : Node)
  | stated (text : String)

namespace MalformedTree

/-- The cause in words. -/
def message : MalformedTree → String
  | declarationWithoutType node => "variable declaration without type node: " ++ node.label
  | typeWithoutTag node => "type node without name: " ++ node.label
  | mappingChildren count => "unexpected AST child count for mapping: " ++ shownInt count
  | lengthNotLiteral node => "array length is not a literal: " ++ node.label
  | lengthWithoutValue node => "array length literal without value: " ++ node.label
  | lengthNotNumeric value => "array length is not numeric: " ++ value.display
  | negativeLength length => "negative array length: " ++ shownInt length
  | basesNotListed value => "linearizedBaseContracts is not an array: " ++ value.display
  | baseNotNumeric entry => "non-numeric linearizedBaseContracts entry: " ++ entry.display
  | contractWithoutName id => "contract " ++ shownInt id ++ " has no name attribute"
  | variableWithoutName owner node =>
    "malformed variable declaration in " ++ owner ++ ": " ++ node.label
  | stated text => text

/-- Whether the cause can be put into words. -/
def isShowable : MalformedTree → Bool
  | declarationWithoutType node | typeWithoutTag node | lengthNotLiteral node
  | lengthWithoutValue node | variableWithoutName _ node => node.isShowable
  | lengthNotNumeric value | basesNotListed value | baseNotNumeric value => value.isShowable
  | negativeLength n | contractWithoutName n => Number.isShowable n
  | mappingChildren _ | stated _ => true

end MalformedTree

/-- Why a text is not the name of a type. -/
inductive UnreadableType
  | unknownBase (base : String)
  | suffixNotAllowed (base : String)
  | tuple
  | emptyTuple
  | tupleNotMatched
  /-- The text does not match the grammar from a position on. -/
  | notMatched (excerpt : String) (column : Nat) (expanded : String)
  /-- A basic type in the text breaks a rule. -/
  | breaksRule (written : String) (column : Nat) (expanded : String) (rule : Abi.BrokenRule)
  | mappingNotClosed
  | mappingWithoutArrow
  | stated (text : String)

/-- The cause in words. -/
def UnreadableType.message : UnreadableType → String
  | unknownBase base => "unknown base type " ++ quoted base
  | suffixNotAllowed base => base ++ " cannot have suffix"
  | tuple => "tuple types are not elementary"
  | emptyTuple => "Zero-sized tuple types \"()\" are not supported."
  | tupleNotMatched => "<tuple syntax>"
  | notMatched excerpt column expanded =>
    "Parse error at '" ++ excerpt ++ "' (column " ++ shownInt column ++ ") in type string '" ++
      expanded ++ "'"
  | breaksRule written column expanded rule =>
    "For '" ++ written ++ "' type at column " ++ shownInt column ++ " in '" ++ expanded ++ "': " ++
      rule.message
  | mappingNotClosed => "unterminated mapping"
  | mappingWithoutArrow => "mapping without '=>'"
  | stated text => text

/-- Why something cannot be the key of a mapping. -/
inductive MappingKeyFault
  | mapping
  /-- A slot type was offered where a value type belongs; it is given as messages show it. -/
  | slotType (shown : String)
  | stated (text : String)

/-- The cause in words. -/
def MappingKeyFault.message : MappingKeyFault → String
  | mapping => "unexpected mapping as mapping key"
  | slotType shown => "mapping key must be an elementary type, got " ++ shown
  | stated text => text

/-- What is wrong with the output of a compiler run, or with a request made of it. -/
inductive ArtifactFault
  | notReadable (path : String)
  | notText (path : String)
  | notJson (path : String)
  | notAnObject
  | noSources
  | noContracts
  | sourceNotAnObject (path : String)
  | noTree (path : String)
  | compactTree (path : String)
  | contractNotAnObject (fullName : String)
  | sourceMapEntry (segment : String)
  | unknownContract (name : String)
  | ambiguousContract (name : String) (candidates : List String)
  | stated (text : String)

/-- The cause in words. -/
def ArtifactFault.message : ArtifactFault → String
  | notReadable path => "cannot read " ++ path ++ ": <detail>"
  | notText path => path ++ " is not UTF-8 text: <detail>"
  | notJson path => path ++ " is not valid JSON: <detail>"
  | notAnObject => "combined-json output must be a JSON object"
  | noSources => "combined-json output has no 'sources' (compile with --combined-json ast,...)"
  | noContracts => "combined-json output has no 'contracts'"
  | sourceNotAnObject path => "source entry for " ++ path ++ " is not an object"
  | noTree path => "no AST for " ++ path ++ " (compile with --combined-json ast,...)"
  | compactTree path =>
    "AST for " ++ path ++ " is in compact format; legacy JSON AST is required"
  | contractNotAnObject fullName => "contract entry for " ++ fullName ++ " is not an object"
  | sourceMapEntry segment => "malformed source map entry " ++ quoted segment
  | unknownContract name => "contract " ++ quoted name ++ " not found in compilation output"
  | ambiguousContract name candidates =>
    "contract name " ++ quoted name ++ " is ambiguous: " ++ Json.commaSeparated candidates
  | stated text => text

end SolidityLayout
