import SolidityLayout.Toml.Field
import SolidityLayout.Toml.Heading
import SolidityLayout.Toml.Lines
import SolidityLayout.Toml.QuotedText

/-!
# Reading TOML documents

A document has a heading or a key with its value on each line.  The values below a heading belong to
its table.  All items of an array are of one kind, and a key cannot be given twice.  A text over
several lines is put together from the lines that follow its key.
-/

namespace SolidityLayout.Toml

open Text

/-- A value that goes on in the next line. -/
structure Unfinished where
  key : String
  /-- What was read of the value so far. -/
  text : List Char
  /-- Whether the line ended in a backslash, so that the blanks behind it do not count. -/
  joined : Bool

namespace Unfinished

/-- What is read of a value with the text of its lines so far: a single backslash at the end of the
text is taken away, otherwise there is a line feed. -/
def ofText (key : String) (text : List Char) : Unfinished :=
  if endsInOddBackslashes text then ⟨key, text.dropLast, true⟩
  else ⟨key, text ++ ['\n'], false⟩

/-- Whether a value is complete with a line: an array is if the line ends with its bracket, a text
is if the line ends with three quotes. -/
def isCompletedBy (u : Unfinished) (line : List Char) : Except Fault Bool :=
  match u.text.head?, line.getLast? with
  | some '[', none => .error .nothingThere
  | some '[', some last => .ok (last == ']')
  | quote?, _ => .ok (2 < line.length && (line.reverse.take 3).all (some · == quote?))

end Unfinished

namespace Value

/-- Read a scalar; `written?` is its spelling if that has to be tidy. -/
def scalar (written? : Option (List Char)) (cs : List Char) : Except Fault Value :=
  match cs with
  | [] => .error .malformed
  | c :: _ =>
    if isQuote c then (QuotedText.read c cs).map fun text => .str (String.ofList text)
    else if String.ofList cs = "true" then .ok (.bool true)
    else if String.ofList cs = "false" then .ok (.bool false)
    else
      match Time.scan? cs, Moment.read? cs with
      | some numbers, _ => ((Time.ofNumbers? numbers).map Value.time).elim (.error .malformed) .ok
      | none, some m => .ok (.moment m)
      | none, none =>
        if written?.any (!Numeral.isTidy ·) then .error .malformed
        else (Numeral.value? cs).elim (.error .malformed) .ok

/-- Add an item to an array, last item first, if it is of the same kind as the others. -/
def addItem (done : List Value) (item : Value) : Except Fault (List Value) :=
  if done.head?.all (·.kind = item.kind) then .ok (item :: done) else .error .malformed

/-- Put a value under a key that holds nothing yet, or note that the value is unfinished. -/
def define (key : String) (content : Value ⊕ Unfinished) :
    Value → Except Fault (Value × Option Unfinished)
  | .table entries =>
    if (Table.get? entries key).isSome then .error .malformed
    else
      match content with
      | .inl v => .ok (.table (Table.put entries key v), none)
      | .inr unfinished =>
        if key.isEmpty then .error .emptyKey else .ok (.table entries, some unfinished)
  | _ => .error .malformed

/-- Change the table that keys lead to; the tables that are missing on the way are made. -/
def changeUnder {α : Type} (change : Value → Except Fault (Value × α)) :
    List String → Value → Except Fault (Value × α)
  | [], v => change v
  | key :: rest, .table entries =>
    (changeUnder change rest ((Table.get? entries key).getD (.table []))).map fun (child, a) =>
      (.table (Table.put entries key child), a)
  | key :: _, v => .error (.notATable (v.lookupFault key))

mutual

/-- Read a value.  Each level of brackets takes a round of `fuel`. -/
def read : Nat → Option (List Char) → List Char → Except Fault Value
  | 0, _, _ => .error .malformed
  | fuel + 1, written?, cs =>
    match cs with
    | '[' :: _ => do
      let pieces ← itemsOf cs
      let items ← pieces.foldlM
        (fun done piece =>
          if (strip piece).isEmpty then .ok done
          else do addItem done (← read fuel none (strip piece))) []
      return .array items.reverse
    | '\x7b' :: _ => readEntries fuel cs (.table [])
    | _ => scalar written? cs

/-- Read a line with a key and a value, and define the key in a table. -/
def readField : Nat → List Char → Value → Except Fault (Value × Option Unfinished)
  | 0, _, _ => .error .malformed
  | fuel + 1, line, v => do
    match Field.read? line with
    | none => .error .malformed
    | some field =>
      let (way, key) ← Field.pathOf field.key
      let change (v : Value) : Except Fault (Value × Option Unfinished) := do
        if ← Field.goesOn field.value then define key (.inr (.ofText key field.value)) v
        else define key (.inl (← read fuel (some field.written) field.value)) v
      changeUnder change way v

/-- Read the entries of a table in braces, and define their keys in a table.  An entry whose value
is unfinished is the last one to be read. -/
def readEntries : Nat → List Char → Value → Except Fault Value
  | 0, _, _ => .error .malformed
  | fuel + 1, cs, v => do
    let (v, _) ← (← entriesOf cs).foldlM
      (fun (v, stopped) entry =>
        if stopped then .ok (v, stopped)
        else do
          let (v, unfinished?) ← readField fuel entry v
          return (v, unfinished?.isSome))
      (v, false)
    return v

end

end Value

/-- A document in the making. -/
structure Draft where
  root : Value
  /-- The names that headings have passed without naming a table. -/
  passed : List String
  /-- The way to the table of the last heading. -/
  steps : List Step
  unfinished? : Option Unfinished

namespace Draft

/-- A document without lines. -/
def empty : Draft := ⟨.table [], [], [], none⟩

/-- Take a heading into account. -/
def addHeading (d : Draft) (line : List Char) : Except Fault Draft :=
  match Heading.read? line with
  | none => .error .malformed
  | some heading => do
    let r ← Value.follow heading.brackets d.passed heading.names d.root
    return ⟨r.value, r.passed, r.steps, none⟩

/-- Change the table of the last heading. -/
def change (d : Draft) (change : Value → Except Fault (Value × Option Unfinished)) :
    Except Fault Draft := do
  let (root, unfinished?) ← Value.changeAt change d.steps d.root
  return { d with root := root, unfinished? := unfinished? }

/-- A number of rounds that is enough to read what stands in a text. -/
def fuelFor (cs : List Char) : Nat :=
  2 * cs.length + 2

/-- Take a line in braces into account: its entries belong to the table of the last heading. -/
def addEntries (d : Draft) (line : List Char) : Except Fault Draft :=
  if line.getLast? = some '\x7d' then
    d.change fun v => (Value.readEntries (fuelFor line) line v).map (·, none)
  else .error .malformed

/-- Take a line into account that starts a heading or an entry; a line without equals sign says
nothing. -/
def addLine (d : Draft) (line : List Char) : Except Fault Draft :=
  match line with
  | [] => .ok d
  | '[' :: _ => d.addHeading line
  | '\x7b' :: _ => d.addEntries line
  | _ =>
    if line.contains '=' then d.change (Value.readField (fuelFor line) line) else .ok d

/-- Put a value under a key of the table of the last heading, whatever it holds. -/
def put (d : Draft) (key : String) (v : Value) : Except Fault Draft :=
  d.change fun
    | .table entries => .ok (.table (Table.put entries key v), none)
    | other => .ok (other, none)

/-- Go on with an unfinished value. -/
def goOn (d : Draft) (u : Unfinished) (line : List Char) : Except Fault Draft := do
  let text := u.text ++ line
  if ← { u with text := text }.isCompletedBy line then
    d.put u.key (← Value.read (fuelFor text) none text)
  else return { d with unfinished? := some (.ofText u.key text) }

/-- Take the next line into account. -/
def add (d : Draft) (line : List Char) : Except Fault Draft :=
  match d.unfinished? with
  | none => d.addLine (strip line)
  | some u =>
    if u.joined then if (strip line).isEmpty then .ok d else d.goOn u (strip line)
    else d.goOn u line

end Draft

/-- Read a document; the answer is its outermost table. -/
def read (text : List Char) : Except Fault Table := do
  let d ← (← lines text).foldlM Draft.add .empty
  match d.root with
  | .table entries => return entries
  | _ => .error .malformed

end SolidityLayout.Toml
