import SolidityLayout.Failure.Cause

/-!
# Source maps

A source map tells for each instruction of compiled code which range of the source it comes from.
Its text has a segment for each entry, and a segment has up to five fields: offset, length, file,
kind of jump and depth of modifiers.  A field that is empty or left out has the value it had in
the entry before.
-/

namespace SolidityLayout

open Number

/-- An entry of a source map. -/
structure SourceMapEntry where
  location : Location
  jump : String
  modifierDepth : Int
  deriving DecidableEq, Repr

namespace SourceMap

/-- The values that fields have before the first entry. -/
def initial : SourceMapEntry := ⟨⟨0, 0, -1⟩, "-", 0⟩

/-- The value of a field that holds an integer, given its value in the entry before. -/
def intField? (before : Int) : Option (List Char) → Option Int
  | none | some [] => some before
  | some cs => decimal? cs

/-- The value of a field that holds a text, given its value in the entry before. -/
def textField (before : String) : Option (List Char) → String
  | none | some [] => before
  | some cs => String.ofList cs

/-- The entry that a segment describes, given the entry before. -/
def entry? (before : SourceMapEntry) (segment : List Char) : Option SourceMapEntry := do
  let fields := segment.splitOn ':'
  let offset ← intField? before.location.offset fields[0]?
  let length ← intField? before.location.length fields[1]?
  let file ← intField? before.location.file fields[2]?
  let modifierDepth ← intField? before.modifierDepth fields[4]?
  return ⟨⟨offset, length, file⟩, textField before.jump fields[3]?, modifierDepth⟩

/-- The entries of the given segments, given the entry before them. -/
def entriesAfter (before : SourceMapEntry) :
    List (List Char) → Except ArtifactFault (List SourceMapEntry)
  | [] => .ok []
  | segment :: rest =>
    match entry? before segment with
    | none => .error (.sourceMapEntry (String.ofList segment))
    | some entry => (entriesAfter entry rest).map (entry :: ·)

/-- Read a source map; an empty text has no entries. -/
def decode (text : String) : Except ArtifactFault (List SourceMapEntry) :=
  if text.isEmpty then .ok [] else entriesAfter initial (text.toList.splitOn ';')

end SourceMap

end SolidityLayout
