import SolidityLayout.Abi.Alias
import SolidityLayout.Abi.Grammar
import SolidityLayout.Abi.Name
import SolidityLayout.Abi.Rules
import SolidityLayout.Abi.Spelling
import SolidityLayout.Abi.Type
import SolidityLayout.Artifact.Collection
import SolidityLayout.Artifact.Contract
import SolidityLayout.Ast.Forest
import SolidityLayout.Ast.Index
import SolidityLayout.Ast.Node
import SolidityLayout.Ast.Walk
import SolidityLayout.Command.Arguments
import SolidityLayout.Command.Level
import SolidityLayout.Command.Run
import SolidityLayout.Command.Settings
import SolidityLayout.Contract.Ancestry
import SolidityLayout.Contract.Layout
import SolidityLayout.Contract.Variables
import SolidityLayout.Failure.Basic
import SolidityLayout.Failure.Cause
import SolidityLayout.Files.Content
import SolidityLayout.Files.Path
import SolidityLayout.Files.Tree
import SolidityLayout.Json.Basic
import SolidityLayout.Json.Display
import SolidityLayout.Json.Equality
import SolidityLayout.Json.Numeral
import SolidityLayout.Json.Reader
import SolidityLayout.Main
import SolidityLayout.Number.Binary64
import SolidityLayout.Number.Decimal
import SolidityLayout.Number.Literal
import SolidityLayout.Number.Shortest
import SolidityLayout.Proofs.Abi.Catalogue
import SolidityLayout.Proofs.Abi.GrammarSpelling
import SolidityLayout.Proofs.Abi.NameLanguage
import SolidityLayout.Proofs.Abi.NameReading
import SolidityLayout.Proofs.Abi.Sentences
import SolidityLayout.Proofs.Abi.ShortNames
import SolidityLayout.Proofs.Abi.TwoReaders
import SolidityLayout.Proofs.Abi.ValueLanguage
import SolidityLayout.Proofs.Abi.ValueSpelling
import SolidityLayout.Proofs.Artifact.Addressing
import SolidityLayout.Proofs.Artifact.FullName
import SolidityLayout.Proofs.Artifact.FurtherSource
import SolidityLayout.Proofs.Artifact.Loading
import SolidityLayout.Proofs.Artifact.MemberOrder
import SolidityLayout.Proofs.Artifact.NameResolution
import SolidityLayout.Proofs.Ast.IndexContents
import SolidityLayout.Proofs.Ast.Listing
import SolidityLayout.Proofs.Ast.Lookup
import SolidityLayout.Proofs.Ast.Preorder
import SolidityLayout.Proofs.Ast.StackTraversal
import SolidityLayout.Proofs.Ast.TreeOrder
import SolidityLayout.Proofs.Command.KeepGoing
import SolidityLayout.Proofs.Command.Printing
import SolidityLayout.Proofs.Command.RunOutcome
import SolidityLayout.Proofs.Contract.AncestorIds
import SolidityLayout.Proofs.Contract.Containment
import SolidityLayout.Proofs.Contract.Correspondence
import SolidityLayout.Proofs.Contract.Inheritance
import SolidityLayout.Proofs.Contract.Insertion
import SolidityLayout.Proofs.Contract.Locating
import SolidityLayout.Proofs.Contract.Outcome
import SolidityLayout.Proofs.Contract.Renumbering
import SolidityLayout.Proofs.Failure.Attempt
import SolidityLayout.Proofs.Failure.Comparison
import SolidityLayout.Proofs.Number.Floor
import SolidityLayout.Proofs.Number.HexadecimalLanguage
import SolidityLayout.Proofs.Number.IntegerLanguage
import SolidityLayout.Proofs.Number.LiteralSpelling
import SolidityLayout.Proofs.Number.Numeral
import SolidityLayout.Proofs.Number.Overflow
import SolidityLayout.Proofs.Number.Range
import SolidityLayout.Proofs.Slot.Arrow
import SolidityLayout.Proofs.Slot.Balance
import SolidityLayout.Proofs.Slot.Classification
import SolidityLayout.Proofs.Slot.DirectPrint
import SolidityLayout.Proofs.Slot.Excess
import SolidityLayout.Proofs.Slot.LengthLiteral
import SolidityLayout.Proofs.Slot.MappingConstruction
import SolidityLayout.Proofs.Slot.NormalForm
import SolidityLayout.Proofs.Slot.RoundTrip
import SolidityLayout.Proofs.Slot.SlotLanguage
import SolidityLayout.Proofs.Slot.SlotSpelling
import SolidityLayout.Proofs.Slot.TextFailures
import SolidityLayout.Proofs.Slot.TypeTree
import SolidityLayout.Proofs.Source.FieldHistory
import SolidityLayout.Proofs.Source.LocationSpelling
import SolidityLayout.Proofs.Source.Numbers
import SolidityLayout.Proofs.Text.CodePoints
import SolidityLayout.Proofs.Text.Stripping
import SolidityLayout.Slot.ArrayLength
import SolidityLayout.Slot.Candidate
import SolidityLayout.Slot.Classify
import SolidityLayout.Slot.Spelling
import SolidityLayout.Slot.Type
import SolidityLayout.Source.Location
import SolidityLayout.Source.Map
import SolidityLayout.Text.Blank
import SolidityLayout.Text.DecimalDigit
import SolidityLayout.Text.HexDigit
import SolidityLayout.Text.Pieces
import SolidityLayout.Text.Printable
import SolidityLayout.Text.Quoted
import SolidityLayout.Text.Ranges
import SolidityLayout.Text.Surrogate
import SolidityLayout.Text.WordCharacter
import SolidityLayout.Toml.Fault
import SolidityLayout.Toml.Field
import SolidityLayout.Toml.Heading
import SolidityLayout.Toml.Items
import SolidityLayout.Toml.Lines
import SolidityLayout.Toml.Moment
import SolidityLayout.Toml.Numeral
import SolidityLayout.Toml.QuotedText
import SolidityLayout.Toml.Reader
import SolidityLayout.Toml.Segments
import SolidityLayout.Toml.Value
