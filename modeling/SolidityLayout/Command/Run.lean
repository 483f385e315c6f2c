import SolidityLayout.Abi.Name
import SolidityLayout.Artifact.Collection
import SolidityLayout.Command.Arguments
import SolidityLayout.Command.Settings
import SolidityLayout.Json.Reader

/-!
# Runs of the command

A run reads the command line and the settings, loads the output of the compiler, selects contracts
and prints the layout of each.  A layout that cannot be computed ends the run, or is skipped with
a warning if the run is to keep going.  The outcome of a run holds all it prints and logs.

A run prints to an output that may refuse a line: one that is written in UTF-8 takes no line with
half a surrogate pair.  A run that meets such a line ends there.
-/

namespace SolidityLayout.Command

open Files

/-- How a run ends: with an exit code, or because something failed that nothing makes up for. -/
inductive Ending
  | exit (code : Nat)
  | settingsFailed (error : SettingsError)
  /-- The path of the compiler's output is too long to be followed. -/
  | overlongPath
  /-- The output refused a line. -/
  | refusedLine
  | failed (failure : Failure)

/-- What a run leaves behind. -/
structure Outcome where
  stdout : String
  log : List LogRecord
  ending : Ending

/-- What a run has printed and logged so far, and the threshold of its log. -/
structure Progress where
  stdout : String
  log : List LogRecord
  threshold : Nat

namespace Progress

/-- The state at the start of a run. -/
def start : Progress := ⟨"", [], Threshold.initial⟩

/-- Log a record if it reaches the threshold. -/
def report (p : Progress) (level : Level) (message : String) : Progress :=
  if p.threshold ≤ level.value then { p with log := p.log ++ [⟨level, message⟩] } else p

/-- Print a line; if the output refuses it, nothing of it is printed. -/
def printLine (takes : String → Bool) (p : Progress) (line : String) : Except Progress Progress :=
  if takes line then .ok { p with stdout := p.stdout ++ line ++ "\n" } else .error p

/-- The outcome of a run that ends here. -/
def ends (p : Progress) (ending : Ending) : Outcome :=
  ⟨p.stdout, p.log, ending⟩

/-- The outcome of a run that reports an error and ends. -/
def endsWithError (p : Progress) (message : String) : Outcome :=
  (p.report .error message).ends (.exit 1)

end Progress

namespace Run

/-- The line above the layout of a contract. -/
def heading (c : Contract) : String :=
  "=== " ++ c.fullName ++ " ==="

/-- Print the layout of a contract, up to a line that the output refuses. -/
def printLayout (takes : String → Bool) (p : Progress) (c : Contract) (texts : List String) :
    Except Progress Progress :=
  (heading c :: texts).foldlM (Progress.printLine takes) p

/-- Log the line that sums up a layout, if there is one. -/
def reportSummary (p : Progress) (layout : Layout) : Progress :=
  match layout.summary? with
  | some line => p.report .info line
  | none => p

/-- Compute the layout of a contract, logging its summary, and answer its texts. -/
def layoutTexts (lookup : NodeLookup) (p : Progress) (c : Contract) :
    Progress × Except Failure (List String) :=
  match Layout.ofLocations lookup Abi.readName c.creationLocations with
  | .error failure => (p, .error failure)
  | .ok layout => (reportSummary p layout, layout.render)

/-- The warning at the end of a run that has skipped contracts. -/
def reportSkipped (p : Progress) (skipped : List String) : Progress :=
  if skipped.isEmpty then p
  else
    p.report .warning
      (shownInt skipped.length ++ " 个合约分析失败: " ++ Json.commaSeparated skipped)

/-- Print the layouts of contracts one after the other; `skipped` holds the full names of those that
were skipped so far. -/
def printAll (takes : String → Bool) (lookup : NodeLookup) (keepGoing : Bool) (p : Progress)
    (skipped : List String) : List Contract → Outcome
  | [] => (reportSkipped p skipped).ends (.exit 0)
  | c :: rest =>
    match layoutTexts lookup p c with
    | (p, .ok texts) =>
      match printLayout takes p c texts with
      | .error p => p.ends .refusedLine
      | .ok p => printAll takes lookup keepGoing p skipped rest
    | (p, .error (.layout error)) =>
      if keepGoing then
        let p := p.report .warning ("  跳过 " ++ c.fullName ++ ": " ++ error.message)
        printAll takes lookup keepGoing p (skipped ++ [c.fullName]) rest
      else p.endsWithError (c.fullName ++ ": " ++ error.message)
    | (p, .error failure) => p.ends (.failed failure)

/-- The contracts of a run: those that are named, or else all that can be deployed. -/
def select (artifacts : Artifacts) (names : List String) : Except ArtifactFault (List Contract) :=
  if names.isEmpty then .ok artifacts.deployable
  else names.mapM (Artifacts.find artifacts.contracts)

/-- The value of a file that holds JSON text. -/
def readArtifacts (path : Path) (entry : Entry) : Except Failure Json :=
  match entry with
  | .file bytes =>
    match text? bytes with
    | none => .error (Artifacts.fault (.notText path.text))
    | some text =>
      (Json.read (some Number.digitLimit) text).mapError fun fault =>
        match fault with
        | .malformed => Artifacts.fault (.notJson path.text)
        | .longNumber => .longNumber
  | _ => .error (Artifacts.fault (.notReadable path.text))

/-- Load the output of the compiler from a file, logging what was read. -/
def loadArtifacts (p : Progress) (path : Path) (entry : Entry) :
    Progress × Except Failure Artifacts :=
  match (readArtifacts path entry).bind Artifacts.Reading.ofJson with
  | .error failure => (p, .error failure)
  | .ok reading => (p.report .info reading.summary, reading.artifacts)

/-- The message about output of the compiler that cannot be used. -/
def unusable (fault : ArtifactFault) : String :=
  "编译产物读取失败: " ++ fault.message

/-- Go on with a run when it is known what the path of the compiler's output leads to. -/
def withArtifacts (takes : String → Bool) (p : Progress) (path : Path) (entry : Entry)
    (names : List String) (keepGoing : Bool) : Outcome :=
  match loadArtifacts p path entry with
  | (p, .error (.layout (.artifact fault))) => p.endsWithError (unusable fault)
  | (p, .error failure) => p.ends (.failed failure)
  | (p, .ok artifacts) =>
    match select artifacts names with
    | .error fault => p.endsWithError (unusable fault)
    | .ok contracts => printAll takes artifacts.index.lookup keepGoing p [] contracts

/-- The contracts that are asked for: those of the command line before those of the settings. -/
def namesFor (arguments : Arguments) (settings : Settings) : List String :=
  if arguments.contracts.isEmpty then settings.contracts else arguments.contracts

/-- The threshold of the log. -/
def thresholdFor (arguments : Arguments) (settings : Settings) : Nat :=
  if arguments.debug then Threshold.debug else settings.level

/-- The path of the compiler's output. -/
def pathFor (arguments : Arguments) (settings : Settings) : Option Path :=
  (arguments.artifacts?.map Path.ofString).or settings.artifacts?

/-- Go on with a run when its settings are known. -/
def withSettings {m : Type → Type} [Monad m] (look : Path → m Entry) (takes : String → Bool)
    (arguments : Arguments) (settings : Settings) : m Outcome := do
  let p := { Progress.start with threshold := thresholdFor arguments settings }
  match pathFor arguments settings with
  | none => return p.endsWithError "未指定 combined-json 文件"
  | some path =>
    match ← look path with
    | .missing => return p.endsWithError ("编译产物不存在: " ++ path.text)
    | .overlong => return p.ends .overlongPath
    | entry =>
      return withArtifacts takes p path entry (namesFor arguments settings)
        (arguments.keepGoing || settings.keepGoing)

/-- The outcome of a run whose settings could not be loaded. -/
def withoutSettings (error : SettingsError) : Outcome :=
  if error.isReported then Progress.start.endsWithError ("配置加载失败: " ++ error.message)
  else Progress.start.ends (.settingsFailed error)

/-- Run the command with given arguments in a directory. -/
def ofArguments {m : Type → Type} [Monad m] (look : Path → m Entry) (takes : String → Bool)
    (directory : Path) (arguments : Arguments) : m Outcome := do
  match ← Settings.load look directory (arguments.settings?.map Path.ofString) with
  | .error error => return withoutSettings error
  | .ok settings => withSettings look takes arguments settings

end Run

/-- Run the command with a command line in a directory; `look` tells what a path leads to, and
`takes` whether the output takes a line. -/
def run {m : Type → Type} [Monad m] (look : Path → m Entry) (takes : String → Bool)
    (directory : Path) (argv : List String) : m Outcome :=
  match Arguments.read argv with
  | .help => return Progress.start.ends (.exit 0)
  | .misuse => return Progress.start.ends (.exit 2)
  | .run arguments => Run.ofArguments look takes directory arguments

end SolidityLayout.Command
