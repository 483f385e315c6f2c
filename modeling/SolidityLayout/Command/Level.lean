import SolidityLayout.Text.WordCharacter

/-!
# Levels of the log

A record of the log has a level, and the log shows the records from a threshold on.  Thresholds go
by names, some of which mean the same.
-/

namespace SolidityLayout.Command

/-- The levels of the records. -/
inductive Level
  | info
  | warning
  | error
  deriving DecidableEq, Repr

namespace Level

/-- The name of a level. -/
def name : Level → String
  | info => "INFO"
  | warning => "WARNING"
  | error => "ERROR"

/-- The number of a level; more serious records have greater ones. -/
def value : Level → Nat
  | info => 20
  | warning => 30
  | error => 40

end Level

/-- A record of the log. -/
structure LogRecord where
  level : Level
  message : String
  deriving DecidableEq, Repr

namespace Threshold

/-- The thresholds by name. -/
def names : List (String × Nat) :=
  [("CRITICAL", 50), ("FATAL", 50), ("ERROR", 40), ("WARNING", 30), ("WARN", 30), ("INFO", 20),
   ("DEBUG", 10), ("NOTSET", 0)]

/-- The threshold before anything is said about it. -/
def initial : Nat := 30

/-- The threshold that shows everything there is to say. -/
def debug : Nat := 10

/-- The upper case of the letters that can spell an upper-case ASCII letter: those of ASCII, the
dotless i and the long s. -/
def upperCase (c : Char) : Char :=
  if c = 'ı' then 'I' else if c = 'ſ' then 'S' else c.toUpper

/-- The upper-case form of a name. -/
def normalName (name : String) : String :=
  String.ofList (name.toList.map upperCase)

/-- The threshold with a given name, in upper case. -/
def value? (name : String) : Option Nat :=
  names.lookup name

end Threshold

end SolidityLayout.Command
