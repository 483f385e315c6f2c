import Mathlib.Data.List.TakeWhile
import SolidityLayout.Command.Run

/-!
# The layouts that a run prints

A run prints one block for each contract and passes a contract without a block only if it
keeps going and the layout failed with an error that is reported.  What the loop has to
print is therefore known from the outcomes of the single layouts: the blocks of all
contracts before the first one that it does not pass.  It prints the lines of these
blocks, and ends early at the first line that the output refuses.  What it logs leaves
the print alone.
-/

namespace SolidityLayout.Command

/-- The text of printed lines. -/
def textOf (lines : List String) : String :=
  String.join (lines.map (· ++ "\n"))

theorem textOf_append (lines others : List String) :
    textOf (lines ++ others) = textOf lines ++ textOf others := by
  rw [textOf, List.map_append, String.join_append]
  rfl

/-- Nothing is taken behind a line that is refused. -/
theorem takeWhile_append_of_not_all {takes : String → Bool} {lines others : List String}
    (h : ¬lines.all takes = true) :
    (lines ++ others).takeWhile takes = lines.takeWhile takes := by
  rw [List.takeWhile_append, if_neg]
  intro hlength
  have hself := (List.takeWhile_prefix takes).eq_of_length hlength
  exact h (List.all_eq_true.mpr (List.takeWhile_eq_self_iff.mp hself))

/-- Of a longer list at least as much is taken. -/
theorem exists_takeWhile_append (takes : String → Bool) (lines others : List String) :
    ∃ more, (lines ++ others).takeWhile takes = lines.takeWhile takes ++ more := by
  by_cases hall : lines.all takes = true
  · have htakes := List.all_eq_true.mp hall
    refine ⟨others.takeWhile takes, ?_⟩
    rw [List.takeWhile_append_of_pos htakes, List.takeWhile_eq_self_iff.mpr htakes]
  · exact ⟨[], by rw [takeWhile_append_of_not_all hall, List.append_nil]⟩

/-! ## Progress -/

namespace Progress

@[simp]
theorem stdout_report (p : Progress) (level : Level) (message : String) :
    (p.report level message).stdout = p.stdout := by
  by_cases h : p.threshold ≤ level.value
  · rw [report, if_pos h]
  · rw [report, if_neg h]

/-- Lines are printed up to the first one that the output refuses. -/
theorem foldlM_printLine (takes : String → Bool) (p : Progress) (lines : List String) :
    lines.foldlM (printLine takes) p =
      let q : Progress := { p with stdout := p.stdout ++ textOf (lines.takeWhile takes) }
      if lines.all takes then .ok q else .error q := by
  induction lines generalizing p with
  | nil =>
      have hempty : p.stdout ++ textOf [] = p.stdout := String.append_empty
      simp only [List.takeWhile_nil, hempty]
      rfl
  | cons line rest ih =>
      rw [List.foldlM_cons, printLine]
      by_cases h : takes line = true
      · have htext : p.stdout ++ line ++ "\n" ++ textOf (rest.takeWhile takes) =
            p.stdout ++ textOf (line :: rest.takeWhile takes) := by
          rw [textOf, textOf, List.map_cons, String.join_cons, String.append_assoc,
            String.append_assoc, String.append_assoc]
        rw [if_pos h, List.takeWhile_cons_of_pos h, List.all_cons, h, Bool.true_and, ← htext]
        exact ih { p with stdout := p.stdout ++ line ++ "\n" }
      · have hempty : p.stdout ++ textOf [] = p.stdout := String.append_empty
        rw [if_neg h, List.takeWhile_cons_of_neg h, List.all_cons,
          Bool.eq_false_iff.mpr h, hempty]
        rfl

end Progress

namespace Run

/-! ## One contract -/

section Contract

variable (lookup : NodeLookup)

/-- The lines of the layout of a contract. -/
def linesOf (c : Contract) : Except Failure (List String) :=
  Layout.texts lookup Abi.readName c.creationLocations

/-- The lines of the block of a contract, if its layout can be computed. -/
def blockLines? (c : Contract) : Option (List String) :=
  (linesOf lookup c).toOption.map (("=== " ++ c.fullName ++ " ===") :: ·)

/-- What is to be printed for a contract, if its layout can be computed. -/
def block? (c : Contract) : Option String :=
  (blockLines? lookup c).map textOf

/-- The lines of the blocks of contracts. -/
def linesOfAll (contracts : List Contract) : List String :=
  (contracts.filterMap (blockLines? lookup)).flatten

/-- Whether a run goes on behind a contract if the output refuses no line. -/
def passes (keepGoing : Bool) (c : Contract) : Bool :=
  match linesOf lookup c with
  | .ok _ => true
  | .error (.layout _) => keepGoing
  | .error _ => false

/-- How a run ends at a contract that it does not pass. -/
def endingAt (c : Contract) : Ending :=
  match linesOf lookup c with
  | .ok _ => .exit 0
  | .error (.layout _) => .exit 1
  | .error failure => .failed failure

theorem linesOfAll_cons (c : Contract) (rest : List Contract) :
    linesOfAll lookup (c :: rest) =
      (blockLines? lookup c).getD [] ++ linesOfAll lookup rest := by
  rw [linesOfAll, List.filterMap_cons]
  cases blockLines? lookup c <;> rfl

theorem linesOfAll_append (contracts others : List Contract) :
    linesOfAll lookup (contracts ++ others) =
      linesOfAll lookup contracts ++ linesOfAll lookup others := by
  rw [linesOfAll, List.filterMap_append, List.flatten_append]
  rfl

/-- The lines of all blocks make the blocks. -/
theorem textOf_linesOfAll (contracts : List Contract) :
    textOf (linesOfAll lookup contracts) =
      String.join (contracts.filterMap (block? lookup)) := by
  induction contracts with
  | nil => rfl
  | cons c rest ih =>
      rw [linesOfAll_cons, textOf_append, ih, List.filterMap_cons, block?]
      cases blockLines? lookup c with
      | none => exact String.empty_append
      | some lines => exact String.join_cons.symm

theorem stdout_reportSummary (p : Progress) (layout : Layout) :
    (reportSummary p layout).stdout = p.stdout := by
  unfold reportSummary
  split
  · exact p.stdout_report _ _
  · rfl

theorem stdout_reportSkipped (p : Progress) (skipped : List String) :
    (reportSkipped p skipped).stdout = p.stdout := by
  by_cases h : skipped.isEmpty
  · rw [reportSkipped, if_pos h]
  · rw [reportSkipped, if_neg h]
    exact p.stdout_report _ _

/-- The summary that is logged with a layout is not printed. -/
theorem exists_layoutTexts_eq (p : Progress) (c : Contract) :
    ∃ q, layoutTexts lookup p c = (q, linesOf lookup c) ∧ q.stdout = p.stdout := by
  unfold layoutTexts linesOf Layout.texts
  cases Layout.ofLocations lookup Abi.readName c.creationLocations with
  | error failure => exact ⟨p, rfl, rfl⟩
  | ok layout => exact ⟨reportSummary p layout, rfl, stdout_reportSummary p layout⟩

theorem passes_false_eq (c : Contract) : passes lookup false c = (block? lookup c).isSome := by
  unfold passes block? blockLines?
  split
  · rename_i lines hlines
    rw [hlines]
    rfl
  · rename_i error herror
    rw [herror]
    rfl
  · rename_i failure _ hfailure
    rw [hfailure]
    rfl

end Contract

/-! ## The loop -/

section Loop

variable {takes : String → Bool} {lookup : NodeLookup} {keepGoing : Bool} {c : Contract}

/-- At a contract that it passes a run prints the lines of the block, if there is one, and
goes on unless the output refuses one of them. -/
theorem printAll_cons_of_passes (h : passes lookup keepGoing c = true)
    (p : Progress) (skipped : List String) (rest : List Contract) :
    ∃ q skipped',
      q.stdout = p.stdout ++ textOf (((blockLines? lookup c).getD []).takeWhile takes) ∧
      printAll takes lookup keepGoing p skipped (c :: rest) =
        if ((blockLines? lookup c).getD []).all takes then
          printAll takes lookup keepGoing q skipped' rest
        else q.ends .refusedLine := by
  obtain ⟨q, htexts, hstdout⟩ := exists_layoutTexts_eq lookup p c
  rw [printAll, htexts]
  unfold passes at h
  split at h
  · rename_i lines hlines
    have hblock : (blockLines? lookup c).getD [] = heading c :: lines := by
      rw [blockLines?, hlines]
      rfl
    simp only [hlines, hblock, printLayout, Progress.foldlM_printLine]
    refine ⟨{ q with stdout :=
      q.stdout ++ textOf ((heading c :: lines).takeWhile takes) }, skipped, ?_, ?_⟩
    · rw [hstdout]
    · by_cases hall : (heading c :: lines).all takes = true
      · rw [if_pos hall, if_pos hall]
      · rw [if_neg hall, if_neg hall]
  · rename_i error herror
    have hblock : (blockLines? lookup c).getD [] = [] := by
      rw [blockLines?, herror]
      rfl
    rw [herror, hblock]
    refine ⟨q.report .warning ("  跳过 " ++ c.fullName ++ ": " ++ error.message),
      skipped ++ [c.fullName], ?_, if_pos h⟩
    rw [Progress.stdout_report, hstdout]
    exact String.append_empty.symm
  · cases h

/-- A run that does not pass a contract prints nothing more and ends there. -/
theorem printAll_cons_of_not_passes (h : passes lookup keepGoing c = false)
    (p : Progress) (skipped : List String) (rest : List Contract) :
    (printAll takes lookup keepGoing p skipped (c :: rest)).stdout = p.stdout ∧
      (printAll takes lookup keepGoing p skipped (c :: rest)).ending = endingAt lookup c := by
  obtain ⟨q, htexts, hstdout⟩ := exists_layoutTexts_eq lookup p c
  rw [printAll, htexts, endingAt]
  unfold passes at h
  split at h
  · cases h
  · rename_i error herror
    simp only [herror, h]
    exact ⟨(q.stdout_report _ _).trans hstdout, rfl⟩
  · rename_i failure hother hfailure
    simp only [hfailure]
    exact ⟨hstdout, rfl⟩

/-- A run prints the lines of the contracts before the first one that it does not pass, up
to the first line that the output refuses.  The refusal decides how it ends, and without
one that contract does. -/
theorem printAll_outcome (contracts : List Contract) (p : Progress) (skipped : List String) :
    let lines := linesOfAll lookup (contracts.takeWhile (passes lookup keepGoing))
    (printAll takes lookup keepGoing p skipped contracts).stdout =
        p.stdout ++ textOf (lines.takeWhile takes) ∧
      (printAll takes lookup keepGoing p skipped contracts).ending =
        if lines.all takes then
          ((contracts.find? fun c => !passes lookup keepGoing c).map (endingAt lookup)).getD
            (.exit 0)
        else .refusedLine := by
  induction contracts generalizing p skipped with
  | nil =>
      refine ⟨?_, rfl⟩
      rw [printAll, Progress.ends, stdout_reportSkipped]
      exact String.append_empty.symm
  | cons c rest ih =>
      intro lines
      by_cases hpass : passes lookup keepGoing c = true
      · obtain ⟨q, skipped', hq, hnext⟩ := printAll_cons_of_passes hpass p skipped rest
        have hlines : lines = (blockLines? lookup c).getD [] ++
            linesOfAll lookup (rest.takeWhile (passes lookup keepGoing)) := by
          rw [← linesOfAll_cons, ← List.takeWhile_cons_of_pos hpass]
        have hfind : ((c :: rest).find? fun c => !passes lookup keepGoing c) =
            rest.find? fun c => !passes lookup keepGoing c := by
          rw [List.find?_cons_of_neg (by simp [hpass])]
        rw [hnext, hlines, List.all_append, hfind]
        by_cases hall : ((blockLines? lookup c).getD []).all takes = true
        · obtain ⟨hstdout, hending⟩ := ih q skipped'
          have hself := List.takeWhile_eq_self_iff.mpr (List.all_eq_true.mp hall)
          rw [if_pos hall, hstdout, hending, hall, Bool.true_and, hq, hself,
            List.takeWhile_append_of_pos (List.all_eq_true.mp hall), textOf_append,
            String.append_assoc]
          exact ⟨rfl, rfl⟩
        · rw [if_neg hall, Bool.eq_false_iff.mpr hall, Bool.false_and,
            takeWhile_append_of_not_all hall]
          exact ⟨hq, rfl⟩
      · have hlines : lines = [] :=
          congrArg (linesOfAll lookup) (List.takeWhile_cons_of_neg hpass)
        rw [Bool.not_eq_true] at hpass
        obtain ⟨hstdout, hending⟩ := printAll_cons_of_not_passes hpass p skipped rest
        rw [hstdout, hending, hlines, List.find?_cons_of_pos (by simp [hpass])]
        exact ⟨String.append_empty.symm, rfl⟩

/-- The failures of the layouts are errors of layout computations. -/
def HasLayoutErrorsOnly (lookup : NodeLookup) (contracts : List Contract) : Prop :=
  ∀ c ∈ contracts, ∀ failure, linesOf lookup c = .error failure → ∃ error, failure = .layout error

/-- A run prints the blocks of contracts and then ends in a given way.  If the output
refuses a line, then the run ends there with only the lines in front of it printed. -/
structure Prints (takes : String → Bool) (lookup : NodeLookup) (contracts : List Contract)
    (ending : Ending) (o : Outcome) : Prop where
  taken : (∀ line ∈ linesOfAll lookup contracts, takes line = true) →
    o.stdout = String.join (contracts.filterMap (block? lookup)) ∧ o.ending = ending
  refused : (∃ line ∈ linesOfAll lookup contracts, takes line = false) →
    o.stdout = textOf ((linesOfAll lookup contracts).takeWhile takes) ∧
      o.ending = .refusedLine

theorem passes_true_of_hasLayoutErrorsOnly {contracts : List Contract}
    (h : HasLayoutErrorsOnly lookup contracts) (hc : c ∈ contracts) :
    passes lookup true c = true := by
  unfold passes
  split
  · rfl
  · rfl
  · rename_i failure hother hfailure
    obtain ⟨error, rfl⟩ := h c hc failure hfailure
    exact (hother error rfl).elim

theorem endingAt_of_hasLayoutErrorsOnly {contracts : List Contract}
    (h : HasLayoutErrorsOnly lookup contracts) (hc : c ∈ contracts)
    (hnone : block? lookup c = none) : endingAt lookup c = .exit 1 := by
  unfold endingAt
  split
  · rename_i lines hlines
    rw [block?, blockLines?, hlines] at hnone
    cases hnone
  · rfl
  · rename_i failure hother hfailure
    obtain ⟨error, rfl⟩ := h c hc failure hfailure
    exact (hother error rfl).elim

theorem passes_of_passes_false (h : passes lookup false c = true) :
    passes lookup keepGoing c = true := by
  unfold passes at h ⊢
  split at h
  · rfl
  · cases h
  · cases h

/-- A run passes contracts that have blocks, whether or not it keeps going. -/
theorem passes_of_block?_ne_none (h : block? lookup c ≠ none) :
    passes lookup keepGoing c = true := by
  apply passes_of_passes_false
  rw [passes_false_eq]
  exact Option.isSome_iff_ne_none.mpr h

variable {contracts : List Contract} {p : Progress}

/-- A run that starts to print prints the blocks of the contracts that it passes. -/
theorem prints_printAll (hp : p.stdout = "") :
    Prints takes lookup (contracts.takeWhile (passes lookup keepGoing))
      (((contracts.find? fun c => !passes lookup keepGoing c).map (endingAt lookup)).getD
        (.exit 0))
      (printAll takes lookup keepGoing p [] contracts) := by
  obtain ⟨hstdout, hending⟩ := @printAll_outcome takes lookup keepGoing contracts p []
  rw [hp, String.empty_append] at hstdout
  constructor
  · intro htakes
    rw [hstdout, hending, if_pos (List.all_eq_true.mpr htakes),
      List.takeWhile_eq_self_iff.mpr htakes, textOf_linesOfAll]
    exact ⟨rfl, rfl⟩
  · rintro ⟨line, hline, hrefused⟩
    have hall : ¬(linesOfAll lookup (contracts.takeWhile (passes lookup keepGoing))).all takes =
        true := by
      intro hall
      rw [List.all_eq_true.mp hall line hline] at hrefused
      cases hrefused
    rw [hending, if_neg hall]
    exact ⟨hstdout, rfl⟩

/-- A run that passes all contracts prints all their blocks. -/
theorem prints_printAll_of_passes (hpass : ∀ c ∈ contracts, passes lookup keepGoing c = true)
    (hp : p.stdout = "") :
    Prints takes lookup contracts (.exit 0) (printAll takes lookup keepGoing p [] contracts) := by
  have hnone : (contracts.find? fun c => !passes lookup keepGoing c) = none :=
    List.find?_eq_none.mpr fun c hc => by simp [hpass c hc]
  have hprints := @prints_printAll takes lookup keepGoing contracts p hp
  rwa [List.takeWhile_eq_self_iff.mpr hpass, hnone] at hprints

/-- A run that does not keep going prints the blocks before the first contract that has
none. -/
theorem prints_printAll_of_exists (h : HasLayoutErrorsOnly lookup contracts)
    (hnone : ∃ c ∈ contracts, block? lookup c = none) (hp : p.stdout = "") :
    Prints takes lookup (contracts.takeWhile fun c => (block? lookup c).isSome) (.exit 1)
      (printAll takes lookup false p [] contracts) := by
  have hpasses : passes lookup false = fun c => (block? lookup c).isSome :=
    funext (passes_false_eq lookup)
  obtain ⟨c, hc, hnone⟩ := hnone
  obtain ⟨first, hfirst⟩ : ∃ first,
      (contracts.find? fun c => !(block? lookup c).isSome) = some first := by
    rw [← Option.isSome_iff_exists, List.find?_isSome]
    exact ⟨c, hc, by simp [hnone]⟩
  have hblock : block? lookup first = none := by simpa using List.find?_some hfirst
  have hending : endingAt lookup first = .exit 1 :=
    endingAt_of_hasLayoutErrorsOnly h (List.mem_of_find?_eq_some hfirst) hblock
  have hprints := @prints_printAll takes lookup false contracts p hp
  rwa [hpasses, hfirst, Option.map_some, Option.getD_some, hending] at hprints

/-- A run that does not keep going prints the start of what one that keeps going prints. -/
theorem exists_stdout_printAll_append {q : Progress} (hq : q.stdout = p.stdout) :
    ∃ more, (printAll takes lookup true q [] contracts).stdout =
      (printAll takes lookup false p [] contracts).stdout ++ more := by
  have htwice : contracts.takeWhile (passes lookup false) =
      (contracts.takeWhile (passes lookup true)).takeWhile (passes lookup false) := by
    rw [List.takeWhile_takeWhile]
    congr 1
    funext c
    by_cases h : passes lookup false c = true
    · simp [h, passes_of_passes_false h]
    · simp [h]
  have hprefix : contracts.takeWhile (passes lookup false) <+:
      contracts.takeWhile (passes lookup true) := by
    rw [htwice]
    exact List.takeWhile_prefix _
  obtain ⟨rest, hrest⟩ := hprefix
  obtain ⟨hfull, -⟩ := @printAll_outcome takes lookup true contracts q []
  obtain ⟨hpart, -⟩ := @printAll_outcome takes lookup false contracts p []
  obtain ⟨more, hmore⟩ := exists_takeWhile_append takes
    (linesOfAll lookup (contracts.takeWhile (passes lookup false))) (linesOfAll lookup rest)
  refine ⟨textOf more, ?_⟩
  rw [hfull, hpart, hq, ← hrest, linesOfAll_append, hmore, textOf_append, String.append_assoc]

end Loop

end Run

end SolidityLayout.Command
