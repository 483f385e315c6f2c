import SolidityLayout.Json.Basic
import SolidityLayout.Number.Shortest
import SolidityLayout.Text.Quoted

/-!
# JSON values in messages

Messages show a value in one line: texts quoted, the constants as `None`, `True` and `False`,
lists in brackets and objects in braces.  A value that holds an integer beyond the digit limit
cannot be shown.
-/

namespace SolidityLayout.Json

open Number Text

/-- Texts separated by commas. -/
def commaSeparated (texts : List String) : String :=
  String.intercalate ", " texts

mutual

/-- A value as messages show it. -/
def display : Json → String
  | .null => "None"
  | .bool b => if b then "True" else "False"
  | .int n => String.ofList (decimal n)
  | .float x => x.text
  | .str s => quoted s
  | .arr items => "[" ++ commaSeparated (displayItems items) ++ "]"
  | .obj members => "\x7b" ++ commaSeparated (displayMembers members) ++ "\x7d"
termination_by structural v => v

/-- The items of a list as messages show them. -/
def displayItems : List Json → List String
  | [] => []
  | v :: rest => display v :: displayItems rest
termination_by structural items => items

/-- The members of an object as messages show them. -/
def displayMembers : List (String × Json) → List String
  | [] => []
  | (key, v) :: rest => (quoted key ++ ": " ++ display v) :: displayMembers rest
termination_by structural members => members

end

/-- A value as plain text: a text stands for itself. -/
def plainText : Json → String
  | .str s => s
  | v => v.display

mutual

/-- Whether a value can be shown. -/
def isShowable : Json → Bool
  | .int n => Number.isShowable n
  | .arr items => areShowable items
  | .obj members => areMembersShowable members
  | _ => true
termination_by structural v => v

/-- Whether every item of a list can be shown. -/
def areShowable : List Json → Bool
  | [] => true
  | v :: rest => isShowable v && areShowable rest
termination_by structural items => items

/-- Whether every member of an object can be shown. -/
def areMembersShowable : List (String × Json) → Bool
  | [] => true
  | (_, v) :: rest => isShowable v && areMembersShowable rest
termination_by structural members => members

end

end SolidityLayout.Json
