import SolidityLayout.Proofs.Artifact.Loading
import SolidityLayout.Proofs.Command.KeepGoing
import SolidityLayout.Proofs.Command.Printing
import SolidityLayout.Proofs.Contract.Containment
import SolidityLayout.Proofs.Contract.Inheritance
import SolidityLayout.Proofs.Failure.Attempt

/-!
# Outcomes of runs

Once a run has read its command line, its settings and the output of the compiler, what it
prints depends on the contracts that it selects, on whether it keeps going and on the lines
that its output takes, and on nothing else.  A failing layout costs a run that keeps going
only its own block; any other run stops there, so that it prints a part of what the first
one prints, from the start.
-/

namespace SolidityLayout.Command

open Files Attempt

/-- The path of the compiler's output that a run is asked to read: the one on its command line
if it has one, and otherwise the one in its settings. -/
def requestedOutput? (arguments : Arguments) (settings : Settings) : Option Path :=
  match arguments.artifacts? with
  | some text => some (.ofString text)
  | none => settings.artifacts?

/-- What a run reads before it selects contracts: a command line, settings, and the output
of the compiler at the path that they give. -/
structure Loads (look : Path → Entry) (directory : Path) (argv : List String)
    (arguments : Arguments) (settings : Settings) (artifacts : Artifacts) : Prop where
  request : Arguments.read argv = .run arguments
  configured :
    Settings.load (m := Id) look directory (arguments.settings?.map Path.ofString) = .ok settings
  output : ∃ path json, requestedOutput? arguments settings = some path ∧
    Run.readArtifacts path (look path) = .ok json ∧ Artifacts.load json = .ok artifacts

/-- With the flag to keep going a run reads what it reads without it. -/
theorem Loads.cons_keepGoing
    {look : Path → Entry} {directory : Path} {argv : List String} {arguments : Arguments}
    {settings : Settings} {artifacts : Artifacts}
    (h : Loads look directory argv arguments settings artifacts) :
    Loads look directory ("--keep-going" :: argv) arguments.withKeepGoing settings artifacts where
  request := by
    rw [Arguments.read_cons_keepGoing, h.request]
    rfl
  configured := h.configured
  output := h.output

/-- The names that a run is asked for: those of its command line if it has any, and otherwise
those of its settings. -/
def requestedNames (arguments : Arguments) (settings : Settings) : List String :=
  match arguments.contracts with
  | [] => settings.contracts
  | name :: rest => name :: rest

/-- The contracts that names select: one for each name, or all that have creation code if
there are no names. -/
inductive Selects (artifacts : Artifacts) : List String → List Contract → Prop
  | named {names : List String} {contracts : List Contract} (hnames : names ≠ [])
      (hfound : List.Forall₂ (fun name c => Artifacts.find artifacts.contracts name = .ok c)
        names contracts) : Selects artifacts names contracts
  | deployable :
      Selects artifacts [] (artifacts.contracts.filter fun c => !c.creation.isEmpty)

namespace Run

/-- Whether a run goes on after a failure. -/
def keepsGoing (arguments : Arguments) (settings : Settings) : Bool :=
  arguments.keepGoing || settings.keepGoing

theorem pathFor_eq_requestedOutput? (arguments : Arguments) (settings : Settings) :
    pathFor arguments settings = requestedOutput? arguments settings := by
  rw [pathFor, requestedOutput?]
  cases arguments.artifacts? with
  | none => rfl
  | some text => rfl

theorem namesFor_eq_requestedNames (arguments : Arguments) (settings : Settings) :
    namesFor arguments settings = requestedNames arguments settings := by
  rw [namesFor, requestedNames]
  cases arguments.contracts with
  | nil => rfl
  | cons name rest => rfl

/-! ## The selection -/

section Selection

variable {artifacts : Artifacts} {names : List String}

theorem select_eq_ok_iff {contracts : List Contract} :
    select artifacts names = .ok contracts ↔ Selects artifacts names contracts := by
  by_cases hnames : names = []
  · subst hnames
    constructor
    · intro h
      cases h
      exact .deployable
    · intro h
      cases h with
      | named hne => exact (hne rfl).elim
      | deployable => rfl
  · rw [select, if_neg (by simpa using hnames), mapM_eq_ok_iff]
    constructor
    · intro h
      exact .named hnames h
    · intro h
      cases h with
      | named _ hfound => exact hfound
      | deployable => exact (hnames rfl).elim

/-- Contracts are selected exactly if every name finds one. -/
theorem exists_selects_iff :
    (∃ contracts, Selects artifacts names contracts) ↔
      ∀ name ∈ names, ∃ c, Artifacts.find artifacts.contracts name = .ok c := by
  simp only [← select_eq_ok_iff]
  by_cases hnames : names = []
  · subst hnames
    simp [select]
  · rw [select, if_neg (by simpa using hnames), exists_mapM_eq_ok_iff]

end Selection

/-! ## Up to the selection -/

/-- Output that can be loaded is loaded without a print. -/
theorem exists_loadArtifacts_eq
    {path : Path} {entry : Entry} {json : Json} {artifacts : Artifacts}
    (hjson : readArtifacts path entry = .ok json) (hload : Artifacts.load json = .ok artifacts)
    (p : Progress) :
    ∃ q, loadArtifacts p path entry = (q, .ok artifacts) ∧ q.stdout = p.stdout := by
  unfold Artifacts.load at hload
  split at hload
  · cases hload
  · rename_i reading hreading
    refine ⟨p.report .info reading.summary, ?_, p.stdout_report _ _⟩
    simp only [loadArtifacts, hjson, Except.bind, hreading, hload]

/-- Only a file can be read as the output of the compiler. -/
theorem exists_file_of_readArtifacts {path : Path} {entry : Entry} {json : Json}
    (h : readArtifacts path entry = .ok json) : ∃ bytes, entry = .file bytes := by
  cases entry with
  | file bytes => exact ⟨bytes, rfl⟩
  | _ => cases h

section Reading

variable {look : Path → Entry} {directory : Path} {argv : List String}
variable {arguments : Arguments} {settings : Settings} {artifacts : Artifacts}
variable (takes : String → Bool)

/-- A run that has read everything prints nothing before it selects contracts. -/
theorem exists_run_eq (h : Loads look directory argv arguments settings artifacts) :
    ∃ p : Progress, p.stdout = "" ∧
      run (m := Id) look takes directory argv =
        match select artifacts (requestedNames arguments settings) with
        | .error fault => p.endsWithError (unusable fault)
        | .ok contracts =>
          printAll takes artifacts.index.lookup (keepsGoing arguments settings) p [] contracts := by
  obtain ⟨path, json, hpath, hjson, hload⟩ := h.output
  obtain ⟨bytes, hfile⟩ := exists_file_of_readArtifacts hjson
  let start : Progress := { Progress.start with threshold := thresholdFor arguments settings }
  obtain ⟨p, hartifacts, hstdout⟩ := exists_loadArtifacts_eq hjson hload start
  have hsettings : run (m := Id) look takes directory argv =
      withSettings (m := Id) look takes arguments settings := by
    simp only [run, h.request, ofArguments, bind, h.configured]
  have hentry : withSettings (m := Id) look takes arguments settings =
      withArtifacts takes start path (look path) (namesFor arguments settings)
        (keepsGoing arguments settings) := by
    simp only [withSettings, pathFor_eq_requestedOutput?, hpath, bind, hfile]
    rfl
  refine ⟨p, hstdout, ?_⟩
  rw [hsettings, hentry, withArtifacts, hartifacts, namesFor_eq_requestedNames]
  rfl

/-- A name that finds no contract ends a run before anything is printed. -/
theorem outcome_of_unresolved (h : Loads look directory argv arguments settings artifacts)
    (hnames : ¬∃ contracts, Selects artifacts (requestedNames arguments settings) contracts) :
    (run (m := Id) look takes directory argv).stdout = "" ∧
      (run (m := Id) look takes directory argv).ending = .exit 1 := by
  obtain ⟨p, hstdout, hrun⟩ := exists_run_eq takes h
  cases hselect : select artifacts (requestedNames arguments settings) with
  | error fault =>
      rw [hselect] at hrun
      rw [hrun]
      exact ⟨(p.stdout_report _ _).trans hstdout, rfl⟩
  | ok contracts => exact (hnames ⟨contracts, select_eq_ok_iff.mp hselect⟩).elim

/-- A run that has selected contracts prints them. -/
theorem exists_run_eq_printAll (h : Loads look directory argv arguments settings artifacts)
    {contracts : List Contract}
    (hselects : Selects artifacts (requestedNames arguments settings) contracts) :
    ∃ p : Progress, p.stdout = "" ∧
      run (m := Id) look takes directory argv =
        printAll takes artifacts.index.lookup (keepsGoing arguments settings) p [] contracts := by
  obtain ⟨p, hstdout, hrun⟩ := exists_run_eq takes h
  rw [select_eq_ok_iff.mpr hselects] at hrun
  exact ⟨p, hstdout, hrun⟩

end Reading

/-! ## Two runs -/

section TwoRuns

variable {look look' : Path → Entry} {directory directory' : Path} {argv argv' : List String}
variable {arguments arguments' : Arguments} {settings settings' : Settings}
variable {artifacts : Artifacts} (takes : String → Bool)
variable (hloads : Loads look directory argv arguments settings artifacts)
variable (hloads' : Loads look' directory' argv' arguments' settings' artifacts)
variable (hnames : requestedNames arguments' settings' = requestedNames arguments settings)
variable (hstops : keepsGoing arguments settings = false)
variable (hkeeps : keepsGoing arguments' settings' = true)

include hloads hloads' hnames hstops hkeeps

/-- A run that does not keep going prints the start of what one that does prints. -/
theorem exists_stdout_run_append :
    ∃ more, (run (m := Id) look' takes directory' argv').stdout =
      (run (m := Id) look takes directory argv).stdout ++ more := by
  by_cases hselects : ∃ contracts, Selects artifacts (requestedNames arguments settings) contracts
  · obtain ⟨contracts, hselects⟩ := hselects
    obtain ⟨p, hp, hrun⟩ := exists_run_eq_printAll takes hloads hselects
    obtain ⟨q, hq, hrun'⟩ := exists_run_eq_printAll takes hloads' (hnames ▸ hselects)
    rw [hrun, hrun', hstops, hkeeps]
    exact exists_stdout_printAll_append (hq.trans hp.symm)
  · have hnone := (outcome_of_unresolved takes hloads hselects).1
    have hnone' := (outcome_of_unresolved takes hloads' (hnames ▸ hselects)).1
    exact ⟨"", by rw [hnone, hnone', String.append_empty]⟩

/-- Without failing layouts it makes no difference whether a run keeps going. -/
theorem stdout_run_eq {contracts : List Contract}
    (hselects : Selects artifacts (requestedNames arguments settings) contracts)
    (hall : ∀ c ∈ contracts, block? artifacts.index.lookup c ≠ none) :
    (run (m := Id) look' takes directory' argv').stdout =
      (run (m := Id) look takes directory argv).stdout := by
  obtain ⟨p, hp, hrun⟩ := exists_run_eq_printAll takes hloads hselects
  obtain ⟨q, hq, hrun'⟩ := exists_run_eq_printAll takes hloads' (hnames ▸ hselects)
  obtain ⟨hstdout, -⟩ := @printAll_outcome takes artifacts.index.lookup false contracts p []
  obtain ⟨hstdout', -⟩ := @printAll_outcome takes artifacts.index.lookup true contracts q []
  rw [List.takeWhile_eq_self_iff.mpr fun c hc => passes_of_block?_ne_none (hall c hc), hp]
    at hstdout
  rw [List.takeWhile_eq_self_iff.mpr fun c hc => passes_of_block?_ne_none (hall c hc), hq]
    at hstdout'
  rw [hrun, hrun', hstops, hkeeps, hstdout, hstdout']

end TwoRuns

end Run

open Run

namespace LoneOutput

/-- The text of a compiler's output with one tree and two contracts, of which only the
first one is in the tree. -/
def text : String :=
  String.join ["\x7b\"sources\":\x7b\"a\":\x7b\"AST\":\x7b\"id\":1,",
    "\"name\":\"ContractDefinition\",\"src\":\"0:9:0\",",
    "\"attributes\":\x7b\"name\":\"Token\",", "\"linearizedBaseContracts\":[1]\x7d\x7d\x7d\x7d,",
    "\"contracts\":\x7b\"a:Token\":\x7b\"srcmap\":", "\"0:9:0\"\x7d,\"a:Lost\":\x7b\"srcmap\":",
    "\"5:5:5\"\x7d\x7d\x7d"]

def json : Json :=
  .obj [("sources", .obj [("a", .obj [("AST", Layout.loneContract 1)])]),
    ("contracts", .obj [("a:Token", .obj [("srcmap", .str "0:9:0")]),
      ("a:Lost", .obj [("srcmap", .str "5:5:5")])])]

def token : Contract := ⟨"Token", "a", [⟨⟨0, 9, 0⟩, "-", 0⟩], []⟩

def lost : Contract := ⟨"Lost", "a", [⟨⟨5, 5, 5⟩, "-", 0⟩], []⟩

def artifacts (index : Ast.Index) : Artifacts :=
  ⟨[token, lost], index, ["a"]⟩

/-- Files of which only the output is there. -/
def files (path : Path) : Entry :=
  if path = .ofString "out.json" then .file text.toUTF8 else .missing

/-- A command line that names the contract without a tree between the other one twice. -/
def argv : List String :=
  ["out.json", "--contract", "Token", "--contract", "Lost", "--contract", "a:Token"]

theorem text?_text : text? text.toUTF8 = some text.toList := by
  have hvalid : String.fromUTF8? text.toUTF8 = some text := dif_pos text.isValidUTF8
  have hlines : unifyLineEnds text.toList = text.toList := by
    rw [text, String.toList_join]
    decide +kernel
  rw [text?, hvalid, Option.map_some, hlines]

-- The reader goes by the length of the text, and `rfl` leaves that recursion folded by default.
set_option maxRecDepth 1000 in
theorem read_text : Json.read (some Number.digitLimit) text.toList = .ok json := by
  rw [text, String.toList_join]
  with_unfolding_all rfl

theorem exists_index :
    ∃ index, Ast.Index.ofForest [.ofJson (Layout.loneContract 1)] = .ok index := by
  apply Ast.Index.exists_ofForest_eq_ok_iff.mpr
  decide +kernel

section Indexed

variable {index : Ast.Index}
variable (hindex : Ast.Index.ofForest [.ofJson (Layout.loneContract 1)] = .ok index)

include hindex

theorem load_json : Artifacts.load json = .ok (artifacts index) :=
  (Artifacts.load_eq_ok_iff_of_hasTrees
    ⟨⟨rfl, rfl, rfl⟩, Artifacts.trees_eq_ok_iff.mp rfl⟩).mpr
    ⟨index, [token, lost], hindex, rfl, by decide, rfl⟩

theorem loads :
    Loads files ⟨1, []⟩ argv
      ⟨some "out.json", ["Token", "Lost", "a:Token"], none, false, false⟩ Settings.default
      (artifacts index) where
  request := by decide +kernel
  configured := rfl
  output := by
    refine ⟨.ofString "out.json", json, rfl, ?_, load_json hindex⟩
    rw [files, if_pos rfl, Run.readArtifacts]
    simp only [text?_text, read_text]
    rfl

theorem linesOf_token : linesOf index.lookup token = .ok [] := by
  have hlocated : index.lookup.atLocation? ⟨0, 9, 0⟩ =
      some (.ofJson (Layout.loneContract 1)) := Ast.Index.atLocation?_eq_find? hindex _
  have hfound : index.lookup.withId? 1 = some (.ofJson (Layout.loneContract 1)) :=
    Ast.Index.withId?_eq_find? hindex _
  have hlayout : Layout.ofLocations index.lookup Abi.readName [⟨0, 9, 0⟩] =
      .ok ⟨some "Token", [1], []⟩ :=
    Layout.ofLocations_of_lone hlocated (by decide +kernel) rfl (by decide +kernel)
      ⟨_, _, hfound, rfl, .nil⟩
  change Layout.texts _ _ [⟨0, 9, 0⟩] = _
  rw [Layout.texts, hlayout]
  rfl

theorem linesOf_lost : ∃ error, linesOf index.lookup lost = .error (.layout error) := by
  have hnone : index.lookup.atLocation? ⟨5, 5, 5⟩ = none :=
    Ast.Index.atLocation?_eq_find? hindex _
  have hshow : (LayoutError.missingDefinition (.noNodeAt ⟨5, 5, 5⟩)).isShowable = true := by
    decide +kernel
  refine ⟨.missingDefinition (.noNodeAt ⟨5, 5, 5⟩), ?_⟩
  change Layout.texts _ _ [⟨5, 5, 5⟩] = _
  simp only [Layout.texts, Layout.ofLocations, NodeLookup.definition, hnone,
    LayoutError.failure, if_pos hshow]

theorem blockLines?_token : blockLines? index.lookup token = some ["=== a:Token ==="] := by
  rw [blockLines?, linesOf_token hindex]
  rfl

theorem blockLines?_lost : blockLines? index.lookup lost = none := by
  obtain ⟨error, herror⟩ := linesOf_lost hindex
  rw [blockLines?, herror]
  rfl

theorem block?_token : block? index.lookup token = some "=== a:Token ===\n" := by
  rw [block?, blockLines?_token hindex]
  rfl

theorem block?_lost : block? index.lookup lost = none := by
  rw [block?, blockLines?_lost hindex]
  rfl

theorem hasLayoutErrorsOnly : HasLayoutErrorsOnly index.lookup [token, lost, token] := by
  have htoken : ∀ failure, linesOf index.lookup token = .error failure →
      ∃ error, failure = .layout error := by
    intro failure hfailure
    rw [linesOf_token hindex] at hfailure
    cases hfailure
  have hlost : ∀ failure, linesOf index.lookup lost = .error failure →
      ∃ error, failure = .layout error := by
    intro failure hfailure
    obtain ⟨error, herror⟩ := linesOf_lost hindex
    rw [herror] at hfailure
    exact ⟨error, (Except.error.inj hfailure).symm⟩
  intro c hc
  simp only [List.mem_cons, List.not_mem_nil, or_false] at hc
  rcases hc with rfl | rfl | rfl
  · exact htoken
  · exact hlost
  · exact htoken

end Indexed

theorem eq_of_selects {index : Ast.Index} {contracts : List Contract}
    (h : Selects (artifacts index) ["Token", "Lost", "a:Token"] contracts) :
    contracts = [token, lost, token] :=
  (Except.ok.inj (Run.select_eq_ok_iff.mpr h)).symm

theorem exists_find_eq_ok_of_mem (index : Ast.Index) :
    ∀ name ∈ ["Token", "Lost", "a:Token"],
      ∃ c, Artifacts.find (artifacts index).contracts name = .ok c :=
  exists_selects_iff.mp ⟨_, Run.select_eq_ok_iff.mp rfl⟩

end LoneOutput

end SolidityLayout.Command
