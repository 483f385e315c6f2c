import SolidityLayout.Text.DecimalDigit

/-!
# Command-line arguments

A command line has at most one operand, the path of the compiler's output, and options.  An option
can be shortened as long as no other option starts the same way, and its value can follow it
behind an equals sign or as the next argument.  Negative numbers and arguments with a space in
them are operands even if they start with a dash, and so is everything behind a double dash.
-/

namespace SolidityLayout.Command

open Text

/-- What a command line asks for. -/
structure Arguments where
  artifacts? : Option String
  contracts : List String
  settings? : Option String
  keepGoing : Bool
  debug : Bool
  deriving DecidableEq, Repr

/-- The result of reading a command line. -/
inductive Request
  | run (arguments : Arguments)
  | help
  | misuse
  deriving DecidableEq, Repr

namespace Arguments

/-- The arguments of an empty command line. -/
def empty : Arguments := ⟨none, [], none, false, false⟩

/-- The options. -/
inductive Switch
  | help
  | contract
  | settings
  | keepGoing
  | debug
  deriving DecidableEq, Repr

/-- The spellings of the options. -/
def spellings : List (String × Switch) :=
  [("-h", .help), ("--help", .help), ("--contract", .contract), ("--config", .settings),
   ("--keep-going", .keepGoing), ("--debug", .debug)]

/-- An argument, taken by itself. -/
inductive Word
  | operand (text : String)
  | doubleDash
  /-- An option, and the value that follows it behind an equals sign. -/
  | option (o : Switch) (value? : Option String)
  /-- The short option for help with further letters attached to it. -/
  | helpCluster (letters : List Char)
  | unknown

/-- A text without the line feed at its end, if there is one. -/
def withoutLineEnd (cs : List Char) : List Char :=
  if cs.getLast? = some '\n' then cs.dropLast else cs

/-- Whether an argument has the form of a negative number; a line feed may follow it. -/
def isNegativeNumber (cs : List Char) : Bool :=
  match withoutLineEnd cs with
  | '-' :: rest =>
    let whole := rest.takeWhile isDecimalDigit
    match rest.dropWhile isDecimalDigit with
    | [] => !whole.isEmpty
    | '.' :: fraction => !fraction.isEmpty && fraction.all isDecimalDigit
    | _ => false
  | _ => false

/-- A text at its first equals sign: what stands before it, and what stands behind it. -/
def splitAtEquals (cs : List Char) : List Char × Option String :=
  match cs.dropWhile (· != '=') with
  | [] => (cs, none)
  | _ :: value => (cs.takeWhile (· != '='), some (String.ofList value))

/-- The options that have a spelling with the given start. -/
def startingWith (front : List Char) : List Switch :=
  (spellings.filter fun entry => front.isPrefixOf entry.1.toList).map (·.2)

/-- The word for an argument that starts with a dash and spells no option; it may be the start of
one. There is none if it is the start of several. -/
def shortened? (text : String) : Option Word :=
  let (front, value?) := splitAtEquals text.toList
  let other : Word :=
    if isNegativeNumber text.toList || text.toList.contains ' ' then .operand text else .unknown
  match text.toList with
  | '-' :: '-' :: _ =>
    match startingWith front with
    | [] => some other
    | [o] => some (.option o value?)
    | _ => none
  | '-' :: 'h' :: letters => some (.helpCluster letters)
  | _ => some other

/-- The word for an argument in front of the double dash, unless it is ambiguous. -/
def word? (text : String) : Option Word :=
  if text == "--" then some .doubleDash
  else
    match text.toList with
    | '-' :: _ :: _ =>
      match spellings.lookup text with
      | some o => some (.option o none)
      | none =>
        let (front, value?) := splitAtEquals text.toList
        match value?, spellings.lookup (String.ofList front) with
        | some value, some o =>
          if front = ['-', 'h'] then some (.helpCluster value.toList)
          else some (.option o (some value))
        | _, _ => shortened? text
    | _ => some (.operand text)

/-- The words of a command line; behind a double dash there are operands only. -/
def words? : List String → Option (List Word)
  | [] => some []
  | text :: rest =>
    match word? text with
    | none => none
    | some .doubleDash => some (.doubleDash :: rest.map .operand)
    | some word => (words? rest).map (word :: ·)

/-- The arguments with the value of an option added. -/
def withValue (a : Arguments) (o : Switch) (value : String) : Arguments :=
  match o with
  | .contract => { a with contracts := a.contracts ++ [value] }
  | .settings => { a with settings? := some value }
  | _ => a

/-- The arguments with an option without value added. -/
def withFlag (a : Arguments) : Switch → Arguments
  | .keepGoing => { a with keepGoing := true }
  | .debug => { a with debug := true }
  | _ => a

/-- Where the operand is expected: it is still awaited, has just been taken, or is no longer
taken. -/
inductive Operand
  | awaited
  | justTaken
  | closed
  deriving DecidableEq, Repr

/-- The place of the operand after an option: an operand that was just taken is complete. -/
def Operand.afterOption : Operand → Operand
  | awaited => awaited
  | _ => closed

/-- What the short option for help asks for with further letters attached to it, behind an equals
sign or directly.  They count as short options of their own, and help is the only one there is. -/
def helpOf (letters : List Char) : Request :=
  if !letters.isEmpty && letters.all (· == 'h') then .help else .misuse

/-- Read the words of a command line one after the other.  A word that has no use is remembered, and
makes the whole a misuse in the end; an option that cannot be read does so at once. -/
def collect (a : Arguments) (operand : Operand) (surplus : Bool) : List Word → Request
  | [] => if surplus then .misuse else .run a
  | .unknown :: rest => collect a operand.afterOption true rest
  | .helpCluster letters :: _ => helpOf letters
  | .option o (some value) :: rest =>
    if o = .contract ∨ o = .settings then
      collect (a.withValue o value) operand.afterOption surplus rest
    else .misuse
  | .option o none :: rest =>
    if o = .help then .help
    else if o = .contract ∨ o = .settings then
      match rest with
      | .operand value :: rest => collect (a.withValue o value) operand.afterOption surplus rest
      | _ => .misuse
    else collect (a.withFlag o) operand.afterOption surplus rest
  | .operand text :: rest =>
    match operand with
    | .awaited => collect { a with artifacts? := some text } .justTaken surplus rest
    | _ => collect a .closed true rest
  | .doubleDash :: rest =>
    match operand, rest with
    | .awaited, .operand text :: rest =>
      collect { a with artifacts? := some text } .closed surplus rest
    | .awaited, rest => collect a .closed surplus rest
    | .justTaken, rest => collect a .closed surplus rest
    | .closed, rest => collect a .closed true rest

/-- Read a command line. -/
def read (argv : List String) : Request :=
  match words? argv with
  | none => .misuse
  | some words => collect empty .awaited false words

end Arguments

end SolidityLayout.Command
