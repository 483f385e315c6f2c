import SolidityLayout.Json.Display
import SolidityLayout.Source.Location

/-!
# Nodes of a syntax tree

A node of a legacy syntax tree has a tag, an id, a source location, attributes and an ordered list
of children.  Each of them may be missing.  Any JSON value can stand where a node is expected:
what does not have the form of a node has none of the parts.
-/

namespace SolidityLayout.Ast

open Number Text

/-- What a node says of itself, apart from its children. -/
structure Header where
  tag? : Option String
  id? : Option Int
  /-- The source location as it is written, whatever value that is. -/
  source? : Option Json
  attributes : Json.Members

/-- A syntax tree: a header and the subtrees below it. -/
inductive Node
  | mk (header : Header) (children : List Node)

namespace Header

/-- The header of a node without parts. -/
def empty : Header := ⟨none, none, none, []⟩

/-- A value that is a text. -/
def text? : Json → Option String
  | .str s => some s
  | _ => none

/-- A value that is an integer. -/
def int? : Json → Option Int
  | .int n => some n
  | _ => none

/-- The header that the members of an object describe. -/
def ofMembers (members : Json.Members) : Header where
  tag? := (members.get? "name").bind text?
  id? := (members.get? "id").bind int?
  source? := members.get? "src"
  attributes := ((members.get? "attributes").map Json.members).getD []

/-- Whether the integers that identify the node can be shown. -/
def isShowable (header : Header) : Bool :=
  header.id?.all Number.isShowable && header.source?.all Json.isShowable

end Header

namespace Node

/-- The node's own header. -/
def header : Node → Header
  | mk header _ => header

/-- The subtrees below the node, left to right. -/
def children : Node → List Node
  | mk _ children => children

mutual

/-- The tree that a JSON value describes. -/
def ofJson : Json → Node
  | .obj members => mk (.ofMembers members) (childrenIn members)
  | _ => mk .empty []
termination_by structural v => v

/-- The subtrees listed by the first member named `children`, if it is a list. -/
def childrenIn : List (String × Json) → List Node
  | [] => []
  | (key, v) :: rest => if key == "children" then ofItems v else childrenIn rest
termination_by structural members => members

/-- The trees in a JSON list; no other value lists any. -/
def ofItems : Json → List Node
  | .arr items => ofList items
  | _ => []
termination_by structural v => v

/-- The trees that the values of a list describe. -/
def ofList : List Json → List Node
  | [] => []
  | v :: rest => ofJson v :: ofList rest
termination_by structural items => items

end

/-- The kind of syntax that the node stands for. -/
def tag? (n : Node) : Option String :=
  n.header.tag?

/-- Whether the node has a given tag. -/
def isTagged (n : Node) (tag : String) : Bool :=
  n.tag? == some tag

/-- The integer by which other nodes refer to the node. -/
def id? (n : Node) : Option Int :=
  n.header.id?

/-- The members of the node's attributes. -/
def attributes (n : Node) : Json.Members :=
  n.header.attributes

/-- The value of an attribute. -/
def attribute? (n : Node) (key : String) : Option Json :=
  n.attributes.get? key

/-- The value of an attribute that is a text. -/
def textAttribute? (n : Node) (key : String) : Option String :=
  (n.attribute? key).bind Header.text?

/-- The node's name in the source text. -/
def name? (n : Node) : Option String :=
  n.textAttribute? "name"

/-- Whether the node says where it comes from, in whatever form. -/
def hasSource (n : Node) : Bool :=
  n.header.source?.isSome

/-- The source location of the node, if it has a readable one. -/
def location? (n : Node) : Option Location :=
  n.header.source?.bind Location.ofJson?

/-- The node in one line: its tag, its id and its source location as written. -/
def label (n : Node) : String :=
  "AstNode(tag=" ++ ((n.tag?.map quoted).getD "None") ++
    ", id=" ++ ((n.id?.map fun i => String.ofList (decimal i)).getD "None") ++
    ", src=" ++ ((n.header.source?.map Json.display).getD "None") ++ ")"

/-- Whether the integers in the label can be shown. -/
def isShowable (n : Node) : Bool :=
  n.header.isShowable

end Node

end SolidityLayout.Ast
