import SolidityLayout.Files.Path

/-!
# File trees

What a path leads to is nothing, a directory or a file with its bytes.  A file tree holds files
and directories in memory; a path is followed in it part by part, so that every part before the
last has to lead to a directory, also when a double dot leads back out of it.  Names and paths
have a greatest length, and what is longer is an error rather than missing.
-/

namespace SolidityLayout.Files

/-- What a path leads to. -/
inductive Entry
  | missing
  | directory
  | file (bytes : ByteArray)
  /-- The path, or a name in it, is too long to be followed. -/
  | overlong

/-- Files and directories in memory, by the parts of their absolute paths. -/
structure Tree where
  entries : List (List String × Entry)

namespace Tree

/-- What stands at given parts without double dots; whatever holds an entry is a directory. -/
def entryAt (tree : Tree) (parts : List String) : Entry :=
  match tree.entries.find? (·.1 == parts) with
  | some (_, entry) => entry
  | none =>
    if parts.isEmpty || tree.entries.any fun e => parts.isPrefixOf e.1 then .directory
    else .missing

/-- The greatest number of bytes in a name. -/
def greatestName : Nat := 255

/-- The greatest number of bytes in a path. -/
def greatestPath : Nat := 4095

/-- Follow the parts of a path, given what it leads to so far. -/
def follow (tree : Tree) (reached : List String) : List String → Entry
  | [] => tree.entryAt reached
  | part :: rest =>
    match tree.entryAt reached with
    | .directory =>
      if greatestName < part.utf8ByteSize then .overlong
      else tree.follow (if part = ".." then reached.dropLast else reached ++ [part]) rest
    | _ => .missing

/-- What a path leads to from a directory. -/
def look (tree : Tree) (directory p : Path) : Entry :=
  if greatestPath < p.text.utf8ByteSize then .overlong
  else tree.follow [] (directory.join p).parts

end Tree

end SolidityLayout.Files
