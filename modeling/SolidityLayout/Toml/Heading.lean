import SolidityLayout.Toml.Lines
import SolidityLayout.Toml.Items
import SolidityLayout.Toml.Segments
import SolidityLayout.Toml.Value

/-!
# Headings

A line with a name in brackets says which table the lines below it belong to; with double brackets
it adds a table to an array.  The parts of the name lead from the outermost table inwards, and
what is missing on the way is made.  A table can be named once, but a name that was part of the
way to another table may still follow once.
-/

namespace SolidityLayout.Toml

open Text

/-- The name of a table, or of an array of tables if the brackets are double. -/
structure Heading where
  brackets : Brackets
  names : List String
  deriving DecidableEq, Repr

namespace Heading

/-! ## Reading -/

/-- Whether a part of a name is a text in quotes, from one end to the other. -/
def isClosed (part : List Char) : Bool :=
  part.head? == part.getLast? && part.length != 1

/-- Whether a part of a name without quotes holds the characters for it, one at least. -/
def isBareName (part : List Char) : Bool :=
  !part.isEmpty && part.all fun c => isLetter c || isDigit c || c == '_' || c == '-'

/-- The names so far, and the start of a name in quotes that is not closed yet. -/
structure Names where
  done : List String
  opened? : Option (List Char)

/-- Go on with a name in quotes: it is over if it is closed. -/
def Names.addQuoted (names : Names) (part : List Char) : Names :=
  if isClosed (strip part) then ⟨names.done ++ [String.ofList (inside (strip part))], none⟩
  else { names with opened? := some part }

/-- Go on with what stands between two points of a name; a point may belong to a name in quotes. -/
def Names.add (names : Names) (piece : List Char) : Option Names :=
  match names.opened? with
  | some part => some (names.addQuoted (part ++ '.' :: piece))
  | none =>
    let part := strip piece
    if part.head?.any isQuote then some (names.addQuoted part)
    else if isBareName part then some ⟨names.done ++ [String.ofList part], none⟩
    else none

/-- The names in a name with points. -/
def namesOf? (cs : List Char) : Option (List String) := do
  let names ← (pieces ['.'] cs).foldlM Names.add ⟨[], none⟩
  if names.opened?.isSome then none else some names.done

/-- What stands in front of the closing brackets of a line, if nothing follows them. -/
def beforeClosing? (closing rest : List Char) : Option (List Char) :=
  let n := firstOutside closing rest
  if occurrences closing rest < n then none
  else
    let (name, behind) := cutAt closing n rest
    if (strip behind).isEmpty then some name else none

/-- Read the line of a heading. -/
def read? : List Char → Option Heading
  | '[' :: '[' :: rest => do
    return ⟨.double, ← namesOf? (← beforeClosing? [']', ']'] rest)⟩
  | '[' :: rest =>
    if rest.isEmpty then none
    else do return ⟨.single, ← namesOf? (← beforeClosing? [']'] rest)⟩
  | _ => none

end Heading

/-! ## Following a heading -/

/-- A step on the way from the outermost table inwards. -/
inductive Step
  /-- To the value under a key. -/
  | key (name : String)
  /-- To the last item of an array. -/
  | last
  deriving DecidableEq, Repr

/-- What a value leads to when headings are followed: the value, the names that were only passed so
far, and the steps that were taken. -/
structure Reached where
  value : Value
  passed : List String
  steps : List Step

namespace Reached

/-- The same seen from one step further out. -/
def after (step : Step) (rebuild : Value → Value) (r : Reached) : Reached :=
  ⟨rebuild r.value, r.passed, step :: r.steps⟩

end Reached

namespace Value

/-- An array with another last item. -/
def withLast (items : List Value) (v : Value) : Value :=
  .array (items.dropLast ++ [v])

/-- What a heading makes where its name is missing. -/
def forHeading (brackets : Brackets) (isLast : Bool) : Value :=
  if isLast && brackets = .double then .array [.table []] else .table []

/-- Name what stands under the last name of a heading already. -/
def renamed (brackets : Brackets) (name : String) (passed : List String) (v : Value) :
    Except Fault (Value × List String) :=
  if passed.contains name then
    if brackets = .double then .error .malformed else .ok (v, passed.erase name)
  else if brackets = .double then
    match v with
    | .array items => .ok (.array (items ++ [.table []]), passed)
    | _ => .error .notAnArray
  else .error .malformed

/-- Go on into the last item of an array, if the heading has double brackets. -/
def followLast (brackets : Brackets) (go : Value → Except Fault Reached) (v : Value) :
    Except Fault Reached :=
  match brackets, v with
  | .single, _ => go v
  | .double, .table _ => go v
  | .double, .array items =>
    match items.getLast? with
    | none => .error .nothingThere
    | some item => (go item).map (Reached.after .last (withLast items))
  | .double, .str s => if s.isEmpty then .error .nothingThere else go v
  | .double, _ => .error (.notATable (.noItems v.kindName))

/-- Follow the names of a heading from a value. -/
def follow (brackets : Brackets) (passed : List String) : List String → Value →
    Except Fault Reached
  | [], v => .ok ⟨v, passed, []⟩
  | name :: rest, v =>
    if name.isEmpty then .error .malformed
    else
      let into (entries : Table) (child : Value) (passed : List String) :=
        (followLast brackets (follow brackets passed rest) child).map
          (Reached.after (.key name) fun v => .table (entries.put name v))
      match v with
      | .table entries =>
        match Table.get? entries name with
        | none =>
          into entries (forHeading brackets rest.isEmpty)
            (if rest.isEmpty then passed else passed ++ [name])
        | some child =>
          if rest.isEmpty then do
            let (child, passed) ← renamed brackets name passed child
            into entries child passed
          else into entries child passed
      | .array items =>
        match items.getLast? with
        | none => .error .nothingThere
        | some (.table entries) =>
          let child := (Table.get? entries name).getD (forHeading brackets rest.isEmpty)
          (into entries child passed).map (Reached.after .last (withLast items))
        | some item => .error (.notATable (item.lookupFault name))
      | .str s =>
        match s.toList.getLast? with
        | none => .error .nothingThere
        | some c => .error (.notATable ((Value.str c.toString).lookupFault name))
      | _ => .error (.notATable (.noItems v.kindName))

/-- Change the value that steps lead to.  A step that leads nowhere ends the way. -/
def changeAt {α : Type} (change : Value → Except Fault (Value × α)) : List Step → Value →
    Except Fault (Value × α)
  | [], v => change v
  | .key name :: rest, .table entries =>
    match Table.get? entries name with
    | none => change (.table entries)
    | some child =>
      (changeAt change rest child).map fun (child, a) =>
        (.table (Table.put entries name child), a)
  | .last :: rest, .array items =>
    match items.getLast? with
    | none => change (.array items)
    | some item => (changeAt change rest item).map fun (item, a) => (withLast items item, a)
  | _ :: _, v => change v

end Value

end SolidityLayout.Toml
