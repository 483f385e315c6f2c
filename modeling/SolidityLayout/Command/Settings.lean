import SolidityLayout.Command.Level
import SolidityLayout.Files.Content
import SolidityLayout.Files.Tree
import SolidityLayout.Toml.Reader

/-!
# Settings

A settings file gives defaults for what the command line leaves open.  They stand in one table of
the file: the path of the compiler's output, which is relative to the directory of the settings
file, the contracts to look at, whether to go on after a failure, and the threshold of the log.  A
file that is not named explicitly may be missing.
-/

namespace SolidityLayout.Command

open Files Text

/-- The settings of a run. -/
structure Settings where
  artifacts? : Option Path
  contracts : List String
  keepGoing : Bool
  /-- The name of the log's threshold. -/
  levelName : String
  /-- The threshold of the log. -/
  level : Nat
  deriving DecidableEq, Repr

/-- Why a path cannot be looked up. -/
inductive PathFault
  /-- It holds the character zero. -/
  | zero
  /-- It holds half a surrogate pair that stands for no byte. -/
  | half
  deriving DecidableEq, Repr

/-- The fault in words; one that has no words of its own is reported by its kind. -/
def PathFault.message : PathFault → String
  | zero => "embedded null byte"
  | half => "<UnicodeEncodeError>"

/-- What can be wrong with a member of the settings table. -/
inductive SettingsFault
  | artifactsNotText
  | badPath (fault : PathFault)
  | contractsNotTexts
  | keepGoingNotBool
  | unknownLevel (value : Toml.Value)

/-- Why the settings could not be loaded. -/
inductive SettingsError
  | missingFile (path : Path)
  | notATable (path : Path)
  | badMember (path : Path) (fault : SettingsFault)
  | badPath (fault : PathFault)
  | longNumber
  /-- The document in the file could not be read. -/
  | unreadable (fault : Toml.Fault)
  | notText
  | isDirectory
  | overlongPath

namespace SettingsFault

/-- The fault in words. -/
def message : SettingsFault → String
  | artifactsNotText => "combined_json 必须是字符串"
  | badPath fault => fault.message
  | contractsNotTexts => "contracts 必须是字符串列表"
  | keepGoingNotBool => "keep_going 必须是布尔值"
  | unknownLevel value => "无效的 log_level " ++ value.display

end SettingsFault

namespace Settings

/-- The settings if nothing is said about them. -/
def default : Settings := ⟨none, [], false, "INFO", 20⟩

/-- The name of the file that is looked for if no other is named. -/
def defaultFile : String := "layout_toolkit.toml"

/-- The name of the table that holds the settings. -/
def tableName : String := "storage_layout"

/-- Whether a code point stands for no byte and is no character either. -/
def isUnencodable (code : Nat) : Bool :=
  isSurrogate code && !(0xDC80 ≤ code && code ≤ 0xDCFF)

/-- Why a part of a path cannot be looked up, if that is so. -/
def partFault? (part : String) : Option PathFault :=
  if (keptCodes part.toList).any isUnencodable then some .half
  else if part.toList.contains '\x00' then some .zero
  else none

/-- The path of the compiler's output. -/
def artifactsIn (directory file : Path) (table : Toml.Table) :
    Except SettingsFault (Option Path) :=
  match table.get? "combined_json" with
  | none => .ok none
  | some (.str text) =>
    let path := Path.ofString text
    match path.parts.findSome? partFault? with
    | some fault => .error (.badPath fault)
    | none => .ok (some ((directory.join file).parent.resolve path))
  | some _ => .error .artifactsNotText

/-- The texts in a list that holds nothing else. -/
def textsOnly? (items : List Toml.Value) : Option (List String) :=
  items.mapM fun item =>
    match item with
    | .str s => some s
    | _ => none

/-- The contracts to look at. -/
def contractsIn (table : Toml.Table) : Except SettingsFault (List String) :=
  match table.get? "contracts" with
  | none => .ok []
  | some (.array items) =>
    match textsOnly? items with
    | some names => .ok names
    | none => .error .contractsNotTexts
  | some _ => .error .contractsNotTexts

/-- Whether to go on after a failure. -/
def keepGoingIn (table : Toml.Table) : Except SettingsFault Bool :=
  match table.get? "keep_going" with
  | none => .ok false
  | some (.bool b) => .ok b
  | some _ => .error .keepGoingNotBool

/-- The name and the value of the log's threshold. -/
def levelIn (table : Toml.Table) : Except SettingsFault (String × Nat) :=
  match (table.get? "log_level").getD (.str "INFO") with
  | .str text =>
    let name := Threshold.normalName text
    match Threshold.value? name with
    | some value => .ok (name, value)
    | none => .error (.unknownLevel (.str text))
  | value => .error (.unknownLevel value)

/-- The settings in a table. -/
def ofTable (directory file : Path) (table : Toml.Table) : Except SettingsFault Settings := do
  let artifacts? ← artifactsIn directory file table
  let contracts ← contractsIn table
  let keepGoing ← keepGoingIn table
  let (levelName, level) ← levelIn table
  return ⟨artifacts?, contracts, keepGoing, levelName, level⟩

/-- The error for a fault in a file; a fault that cannot be shown is reported as a number too
long. -/
def errorOf (file : Path) : SettingsFault → SettingsError
  | .unknownLevel value =>
    if value.isShowable then .badMember file (.unknownLevel value) else .longNumber
  | .badPath fault => .badPath fault
  | fault => .badMember file fault

/-- The settings in a document. -/
def ofDocument (directory file : Path) (document : Toml.Table) : Except SettingsError Settings :=
  match document.get? tableName with
  | none => (ofTable directory file []).mapError (errorOf file)
  | some (.table table) => (ofTable directory file table).mapError (errorOf file)
  | some _ => .error (.notATable file)

/-- The settings in what the path of a file leads to; `named` says whether the file was asked for.
-/
def ofEntry (directory file : Path) (named : Bool) : Entry → Except SettingsError Settings
  | .missing => if named then .error (.missingFile file) else .ok default
  | .directory => .error .isDirectory
  | .overlong => .error .overlongPath
  | .file bytes =>
    match text? bytes with
    | none => .error .notText
    | some text =>
      match Toml.read (kept text) with
      | .error fault => .error (.unreadable fault)
      | .ok document => ofDocument directory file document

/-- The path of the settings file: the one asked for, or the default one in the directory. -/
def fileFor (directory : Path) (asked? : Option Path) : Path :=
  asked?.getD (directory.join (.ofString defaultFile))

/-- Load the settings of a run in a directory. -/
def load {m : Type → Type} [Monad m] (look : Path → m Entry) (directory : Path)
    (asked? : Option Path) : m (Except SettingsError Settings) := do
  let file := fileFor directory asked?
  return ofEntry directory file asked?.isSome (← look file)

end Settings

namespace SettingsError

/-- The error in words; one that has no words of its own is reported by its kind. -/
def message : SettingsError → String
  | missingFile path => "未找到配置文件 (" ++ path.text ++ ")"
  | notATable path => path.text ++ " 中 [" ++ Settings.tableName ++ "] 不是表"
  | badMember path fault => path.text ++ ": " ++ fault.message
  | badPath fault => fault.message
  | longNumber => "<ValueError>"
  | unreadable fault => fault.message
  | notText => "<UnicodeDecodeError>"
  | isDirectory => "<IsADirectoryError>"
  | overlongPath => "<OSError>"

/-- Whether a run reports the error itself; otherwise the run ends with it. -/
def isReported : SettingsError → Bool
  | unreadable fault => fault == .malformed
  | isDirectory => false
  | overlongPath => false
  | _ => true

end SettingsError

end SolidityLayout.Command
