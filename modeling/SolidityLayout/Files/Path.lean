/-!
# Paths

A path is written with slashes between its parts.  Empty parts and single dots are left out when
it is read, so that a path has one text; double dots are kept until the path is resolved.  Two
slashes in front are told apart from one, three or more are not.
-/

namespace SolidityLayout.Files

/-- A path: the number of slashes in front of it, none for a relative one, and its parts. -/
structure Path where
  slashes : Nat
  parts : List String
  deriving DecidableEq, Repr

namespace Path

/-- The number of slashes that count of those in front of a text. -/
def leadingSlashes (cs : List Char) : Nat :=
  match (cs.takeWhile (· == '/')).length with
  | 0 => 0
  | 2 => 2
  | _ => 1

/-- Read a path. -/
def ofString (s : String) : Path where
  slashes := leadingSlashes s.toList
  parts := ((s.toList.splitOn '/').map String.ofList).filter fun part => part != "" && part != "."

/-- The text of a path; the path without parts is a dot. -/
def text (p : Path) : String :=
  if p.slashes = 0 ∧ p.parts = [] then "."
  else String.ofList (List.replicate p.slashes '/') ++ String.intercalate "/" p.parts

/-- The directory that holds what a path leads to. -/
def parent (p : Path) : Path :=
  ⟨p.slashes, p.parts.dropLast⟩

/-- The path `q` taken from the directory `p`; an absolute path stands for itself. -/
def join (p q : Path) : Path :=
  if q.slashes = 0 then ⟨p.slashes, p.parts ++ q.parts⟩ else q

/-- The parts that are left when every double dot takes away the part before it; `done` holds those
already passed, last one first. -/
def withoutDoubleDots (done : List String) : List String → List String
  | [] => done.reverse
  | part :: rest =>
    if part = ".." then withoutDoubleDots (done.drop 1) rest
    else withoutDoubleDots (part :: done) rest

/-- The absolute path without double dots to which a path leads from a directory. -/
def resolve (directory p : Path) : Path :=
  ⟨1, withoutDoubleDots [] (directory.join p).parts⟩

end Path

end SolidityLayout.Files
