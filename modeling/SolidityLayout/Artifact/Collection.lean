import SolidityLayout.Artifact.Contract
import SolidityLayout.Ast.Index
import SolidityLayout.Contract.Layout

/-!
# Output of a compiler run

The combined output of a compiler run holds a syntax tree for each source file and an entry for each
contract.  The nodes of all trees are indexed together.  Contracts are kept in the order of their
entries, one for each full name: a later entry of the same full name takes the place of the earlier
one.  A contract is found by its full name, or by its name if no other contract has the same.
-/

namespace SolidityLayout

open Ast

/-- The output of a compiler run, indexed. -/
structure Artifacts where
  contracts : List Contract
  index : Index
  /-- The list of the source files, as the output gives it. -/
  sources : List String

namespace Artifacts

/-- The failure for a fault of the output. -/
def fault (f : ArtifactFault) : Failure :=
  .layout (.artifact f)

/-- The syntax tree in the entry of a source file. -/
def treeOf (path : String) (source : Json) : Except Failure Node :=
  match source with
  | .obj members =>
    match (Json.Members.get? members "legacyAST").or (Json.Members.get? members "AST") with
    | some (.obj tree) =>
      if Json.Members.has tree "nodeType" then .error (fault (.compactTree path))
      else .ok (.ofJson (.obj tree))
    | _ => .error (fault (.noTree path))
  | _ => .error (fault (.sourceNotAnObject path))

/-- Add a contract: it takes the place of one with the same full name, or goes to the end. -/
def addContract (contracts : List Contract) (c : Contract) : List Contract :=
  if contracts.any (·.fullName == c.fullName) then
    contracts.map fun other => if other.fullName == c.fullName then c else other
  else contracts ++ [c]

/-- What can be read of the output before the source files are listed. -/
structure Reading where
  contracts : List Contract
  index : Index
  sourceCount : Nat
  listed : List Json

namespace Reading

/-- The values in the list of the source files; without a list, the paths of the sources. -/
def listedSources (output sources : Json.Members) : List Json :=
  match output.get? "sourceList" with
  | some (.arr items) => items
  | _ => sources.map fun source => .str source.1

/-- Read the output of a compiler run. -/
def ofJson (output : Json) : Except Failure Reading :=
  match output with
  | .obj members =>
    match Json.Members.get? members "sources", Json.Members.get? members "contracts" with
    | some (.obj sources), some (.obj entries) =>
      match sources.mapM fun source => treeOf source.1 source.2 with
      | .error failure => .error failure
      | .ok trees =>
        match Index.ofForest trees with
        | .error failure => .error failure
        | .ok index =>
          (entries.mapM fun entry => Contract.ofEntry entry.1 entry.2).map fun contracts =>
            ⟨contracts.foldl addContract [], index, sources.length,
              listedSources members sources⟩
    | some (.obj _), _ => .error (fault .noContracts)
    | _, _ => .error (fault .noSources)
  | _ => .error (fault .notAnObject)

/-- The line that sums up what was read. -/
def summary (r : Reading) : String :=
  "  ✓ 加载 " ++ shownInt r.contracts.length ++ " 个合约, " ++ shownInt r.sourceCount ++ " 个源文件"

/-- What was read together with the list of the source files, if that can be shown. -/
def artifacts (r : Reading) : Except Failure Artifacts :=
  if r.listed.all Json.isShowable then .ok ⟨r.contracts, r.index, r.listed.map Json.plainText⟩
  else .error .longNumber

end Reading

/-- Load the output of a compiler run. -/
def load (output : Json) : Except Failure Artifacts :=
  match Reading.ofJson output with
  | .error failure => .error failure
  | .ok reading => reading.artifacts

/-- Find a contract by its full name, or by its name if that is not ambiguous. -/
def find (contracts : List Contract) (name : String) : Except ArtifactFault Contract :=
  match contracts.find? (·.fullName == name) with
  | some c => .ok c
  | none =>
    match contracts.filter (·.name == name) with
    | [] => .error (.unknownContract name)
    | [c] => .ok c
    | several =>
      .error (.ambiguousContract name ((several.map (·.fullName)).mergeSort (fun a b => !(b < a))))

/-- The contracts that can be deployed. -/
def deployable (a : Artifacts) : List Contract :=
  a.contracts.filter (·.isDeployable)

/-- The layout of the contract with a given name. -/
def layout (a : Artifacts) (reader : TypeReader) (name : String) : Except Failure Layout :=
  match find a.contracts name with
  | .error f => .error (fault f)
  | .ok c => Layout.ofLocations a.index.lookup reader c.creationLocations

end Artifacts

end SolidityLayout
