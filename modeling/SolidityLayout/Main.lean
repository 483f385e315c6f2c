import SolidityLayout.Command.Run

/-!
# The command

Runs the command in the current directory, on the files of the machine.  It prints in UTF-8, so that
its output takes every line without halves of surrogate pairs.
-/

namespace SolidityLayout.Command

open Files

/-- What a path leads to on this machine; what exists but is no readable file counts as a
directory. -/
def entryOnDisk (p : Path) : IO Entry := do
  try
    return .file (← IO.FS.readBinFile (Text.plain p.text))
  catch
    | .noFileOrDirectory .. => return .missing
    | _ => return .directory

/-- What the machine gives as a text, as it is kept. -/
def ofMachine (s : String) : String :=
  String.ofList (Text.kept s.toList)

/-- Say why a run ended, and answer its exit code. -/
def finish (ending : Ending) : IO UInt32 := do
  match ending with
  | .exit code => return code.toUInt32
  | .settingsFailed error =>
    IO.eprintln (Text.plain error.message)
    return 1
  | .overlongPath =>
    IO.eprintln "the path of the compiler's output is too long"
    return 1
  | .refusedLine =>
    IO.eprintln "a line holds half a surrogate pair"
    return 1
  | .failed (.layout error) =>
    IO.eprintln (Text.plain error.message)
    return 1
  | .failed _ =>
    IO.eprintln "a value is out of range or of the wrong kind"
    return 1

end SolidityLayout.Command

/-- Run the command on the arguments of the process. -/
def main (argv : List String) : IO UInt32 := do
  let current := SolidityLayout.Command.ofMachine (← IO.currentDir).toString
  let outcome ← SolidityLayout.Command.run SolidityLayout.Command.entryOnDisk
    SolidityLayout.Text.isEncodable (SolidityLayout.Files.Path.ofString current)
    (argv.map SolidityLayout.Command.ofMachine)
  for record in outcome.log do
    IO.eprintln (record.level.name ++ " - " ++ SolidityLayout.Text.plain record.message)
  IO.print (SolidityLayout.Text.plain outcome.stdout)
  SolidityLayout.Command.finish outcome.ending
