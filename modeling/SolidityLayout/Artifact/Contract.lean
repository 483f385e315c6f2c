import SolidityLayout.Failure.Basic
import SolidityLayout.Source.Map

/-!
# Compiled contracts

A compiled contract is known by its name and by the path of the source file that holds it.  The two
together make its full name, with a colon between them; the name is what follows the last colon.
-/

namespace SolidityLayout

/-- A contract in the output of the compiler. -/
structure Contract where
  name : String
  sourcePath : String
  creation : List SourceMapEntry
  runtime : List SourceMapEntry
  deriving DecidableEq, Repr

namespace Contract

/-- The name with the path in front of it; without a path the name stands alone. -/
def joinName (sourcePath name : String) : String :=
  if sourcePath.isEmpty then name else sourcePath ++ ":" ++ name

/-- The path and the name of which a full name is made. -/
def splitName (fullName : String) : String × String :=
  let back := fullName.toList.reverse
  let name := (back.takeWhile (· != ':')).reverse
  let path := ((back.dropWhile (· != ':')).drop 1).reverse
  (String.ofList path, String.ofList name)

/-- The name by which no other contract of the same output is known. -/
def fullName (c : Contract) : String :=
  joinName c.sourcePath c.name

/-- Whether the contract can be deployed; interfaces and abstract contracts have no creation code.
-/
def isDeployable (c : Contract) : Bool :=
  !c.creation.isEmpty

/-- The source locations of the creation code. -/
def creationLocations (c : Contract) : List Location :=
  c.creation.map (·.location)

/-- Read the source map in a member of a contract's entry; a member that is empty or missing gives
an empty source map. -/
def sourceMapOf (entry : Json.Members) (key : String) : Except Failure (List SourceMapEntry) :=
  match entry.get? key with
  | none => .ok []
  | some (.str text) =>
    (SourceMap.decode text).mapError fun fault => .layout (.artifact fault)
  | some value => if value.isTruthy then .error .noSuchPart else .ok []

/-- The contract that an entry of the compiler's output describes. -/
def ofEntry (fullName : String) (entry : Json) : Except Failure Contract :=
  match entry with
  | .obj members =>
    let (sourcePath, name) := splitName fullName
    match sourceMapOf members "srcmap", sourceMapOf members "srcmap-runtime" with
    | .error failure, _ => .error failure
    | .ok _, .error failure => .error failure
    | .ok creation, .ok runtime => .ok ⟨name, sourcePath, creation, runtime⟩
  | _ => .error (.layout (.artifact (.contractNotAnObject fullName)))

end Contract

end SolidityLayout
