import SolidityLayout.Json.Display
import SolidityLayout.Text.Pieces
import SolidityLayout.Toml.Fault
import SolidityLayout.Toml.Moment

/-!
# TOML values

The values of TOML documents, and their text in messages.  The entries of a table keep the order in
which they were written, and a key stands for one value only.
-/

namespace SolidityLayout.Toml

open Number Text

/-- A TOML value. -/
inductive Value
  | bool (value : Bool)
  | int (value : Int)
  | float (value : Binary64)
  | str (value : String)
  | time (value : Time)
  | moment (value : Moment)
  | array (items : List Value)
  | table (entries : List (String × Value))
  deriving Inhabited

/-- The entries of a table, in order. -/
abbrev Table := List (String × Value)

namespace Table

/-- The value under a key. -/
def get? (table : Table) (key : String) : Option Value :=
  table.lookup key

/-- Put a value under a key: a new key goes to the end, a known one keeps its place. -/
def put (table : Table) (key : String) (value : Value) : Table :=
  if (table.get? key).isSome then
    table.map fun entry => if entry.1 = key then (key, value) else entry
  else table ++ [(key, value)]

end Table

/-- The kinds of values. -/
inductive Kind
  | bool
  | int
  | float
  | str
  | time
  | moment
  | array
  | table
  deriving DecidableEq, Repr

namespace Value

/-- The kind of a value. -/
def kind : Value → Kind
  | bool _ => .bool
  | int _ => .int
  | float _ => .float
  | str _ => .str
  | time _ => .time
  | moment _ => .moment
  | array _ => .array
  | table _ => .table

/-- The kind of a value as messages call it. -/
def kindName : Value → String
  | bool _ => "bool"
  | int _ => "int"
  | float _ => "float"
  | str _ => "str"
  | time _ => "datetime.time"
  | moment m => if m.time?.isSome then "datetime.datetime" else "datetime.date"
  | array _ => "list"
  | table _ => "dict"

/-- Why a key cannot be looked up in a value, and nothing be put under it, if the value is no table.
-/
def lookupFault (v : Value) (key : String) : LookupFault :=
  match v with
  | str s => if holds key.toList s.toList then .textByNumber else .fixedText
  | array _ => .arrayByNumber
  | v => .notSearchable v.kindName

mutual

/-- A value as messages show it. -/
def display : Value → String
  | bool b => if b then "True" else "False"
  | int n => String.ofList (decimal n)
  | float x => x.text
  | str s => quoted s
  | time t => t.text
  | moment m => m.text
  | array items => "[" ++ Json.commaSeparated (displayItems items) ++ "]"
  | table entries => "\x7b" ++ Json.commaSeparated (displayEntries entries) ++ "\x7d"
termination_by structural v => v

/-- The items of an array as messages show them. -/
def displayItems : List Value → List String
  | [] => []
  | v :: rest => display v :: displayItems rest
termination_by structural items => items

/-- The entries of a table as messages show them. -/
def displayEntries : List (String × Value) → List String
  | [] => []
  | (key, v) :: rest => (quoted key ++ ": " ++ display v) :: displayEntries rest
termination_by structural entries => entries

end

mutual

/-- Whether a value can be shown: it holds no integer beyond the digit limit. -/
def isShowable : Value → Bool
  | int n => Number.isShowable n
  | array items => areShowable items
  | table entries => areEntriesShowable entries
  | _ => true
termination_by structural v => v

/-- Whether every item of an array can be shown. -/
def areShowable : List Value → Bool
  | [] => true
  | v :: rest => isShowable v && areShowable rest
termination_by structural items => items

/-- Whether every entry of a table can be shown. -/
def areEntriesShowable : List (String × Value) → Bool
  | [] => true
  | (_, v) :: rest => isShowable v && areEntriesShowable rest
termination_by structural entries => entries

end

end Value

end SolidityLayout.Toml
