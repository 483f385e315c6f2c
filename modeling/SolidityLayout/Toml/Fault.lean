/-!
# Faults of TOML documents
-/

namespace SolidityLayout.Toml

/-- Why a key cannot be looked up in a value that is no table. -/
inductive LookupFault
  /-- The value, whose kind is given, cannot be searched. -/
  | notSearchable (kind : String)
  /-- The value, whose kind is given, has no items. -/
  | noItems (kind : String)
  /-- The value is a text, to which nothing can be added. -/
  | fixedText
  /-- The value is a text that holds the key, but gives its characters by number only. -/
  | textByNumber
  /-- The value is an array, which gives its items by number only. -/
  | arrayByNumber
  deriving DecidableEq, Repr

/-- The fault in words. -/
def LookupFault.message : LookupFault → String
  | notSearchable kind => "argument of type '" ++ kind ++ "' is not iterable"
  | noItems kind => "'" ++ kind ++ "' object is not subscriptable"
  | fixedText => "'str' object does not support item assignment"
  | textByNumber => "string indices must be integers, not 'str'"
  | arrayByNumber => "list indices must be integers or slices, not str"

/-- Why a document could not be read. -/
inductive Fault
  /-- The document breaks a rule of the format. -/
  | malformed
  /-- Nothing stands where a character or an item is needed to go on. -/
  | nothingThere
  /-- A key leads through a value that is no table. -/
  | notATable (fault : LookupFault)
  /-- A table is to be added to a value that is no array. -/
  | notAnArray
  /-- An escape names a number that is far beyond all code points. -/
  | numberTooLarge
  /-- A text over several lines stands under the empty key. -/
  | emptyKey
  deriving DecidableEq, Repr

/-- The fault in words; a rule of the format that is broken is reported by its kind. -/
def Fault.message : Fault → String
  | malformed => "<TomlDecodeError>"
  | nothingThere => "a character or an item is missing"
  | notATable fault => fault.message
  | notAnArray => "a table cannot be added to a value that is no array"
  | numberTooLarge => "an escape names a number beyond all code points"
  | emptyKey => "a text over several lines stands under the empty key"

end SolidityLayout.Toml
