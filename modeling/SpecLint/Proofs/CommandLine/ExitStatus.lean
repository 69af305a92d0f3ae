import SpecLint.CommandLine.Run
import SpecLint.Proofs.Check.FileEnds
import SpecLint.Proofs.Report.PlainLines

/-!
# What the exit status of a check says

A check ends with status 0 if it comes to a result without findings, and if this can be shown. The
status of the result says more: it also tells of files that failed. So a clean result comes with exit
status 0, but a result that tells of failed files does too, as long as nothing was found.

## Main result

`exit_of_runCheck`: how the exit status, the status of the result and what is listed follow from how
each of the files ends.

## Proof strategy

Whatever stops a request before there is a result has an exit status of its own. After that, only
findings and a status line that cannot be shown count, and the summary of a run can always be shown.
-/
namespace SpecLint.CommandLine

open SpecLint.Code SpecLint.Check SpecLint.Report SpecLint.Settings
open SpecLint.Code.Concrete (construct token)

/-- What has to be there for a request before its project is checked: its paths, settings, and a log
that can be opened, which may change the disk. -/
structure Prepared (surroundings : Surroundings) (request : CheckRequest) (settings : Settings)
    (disk : Disk) : Prop where
  found : pathFault? surroundings.disk request = none
  loaded : Sources.load ⟨surroundings.disk, resolve surroundings.disk request.root,
    surroundings.environment, [], surroundings.homes⟩ = .ok settings
  opened : (logOf surroundings request settings).openFiles surroundings.disk = .ok disk

/-- The check of the project of a request. -/
def projectRun (surroundings : Surroundings) (request : CheckRequest) (settings : Settings)
    (disk : Disk) : Run AnalysisResult :=
  Check.check surroundings.installation disk settings (resolve disk request.root)
    (request.paths.map (resolve disk)) request.checks surroundings.duration

/-- The files that are checked for a request. -/
def filesOfRequest (request : CheckRequest) (disk : Disk) : List Path :=
  discover disk (targets (resolve disk request.root) (request.paths.map (resolve disk)))

/-- A request whose check comes to a result. -/
structure Reports (surroundings : Surroundings) (request : CheckRequest) (settings : Settings)
    (disk : Disk) (result : AnalysisResult) : Prop
    extends Prepared surroundings request settings disk where
  yields : (projectRun surroundings request settings disk).Yields result

variable {surroundings : Surroundings} {request : CheckRequest} {settings : Settings} {disk : Disk}
  {result : AnalysisResult} {root : Path}

/-! ### Status lines -/

theorem shownNotices_fault_iff {all : List Notice} :
    (shownNotices all).2 = none ↔ ∀ notice ∈ all, ∃ line, notice.line = .ok line := by
  induction all with
  | nil => simp [shownNotices]
  | cons notice rest ih =>
    rw [shownNotices, List.forall_mem_cons, ← ih]
    cases told : notice.line with
    | error fault => simp
    | ok line => simp

/-- Notices that can all be shown are shown one after the other. -/
theorem shownNotices_lines {all : List Notice} (shown : (shownNotices all).2 = none) :
    List.Forall₂ (fun notice line => notice.line = .ok line) all
      ((shownNotices all).1.map (·.2)) := by
  induction all with
  | nil => exact .nil
  | cons notice rest ih =>
    rw [shownNotices] at shown ⊢
    cases told : notice.line with
    | error fault => simp [told] at shown
    | ok line =>
      rw [told] at shown
      exact .cons told (ih shown)

/-- The summary of a run can always be shown. -/
theorem exists_line_summary (result : AnalysisResult) :
    ∃ line, (summary result).line = .ok line := by
  have files := bracket_not_mem_countedNat "file" (by decide +kernel) result.filesChecked
  have findings := bracket_not_mem_countedNat "offense" (by decide +kernel)
    result.diagnostics.length
  apply exists_plainStatus
  simpa [summary] using ⟨files, findings⟩

/-! ### What is told of a result -/

/-- Why a result cannot be shown, if so: a result in JSON always can. -/
def showFault? (request : CheckRequest) (root : Path) (result : AnalysisResult) :
    Option MarkupFault :=
  if request.json then none else (shownNotices (notices root result)).2

theorem showFault?_of_clean (clean : result.status = .clean) :
    showFault? request root result = none := by
  have noFailures : result.failures = [] := by
    refine List.filter_eq_nil_iff.mpr fun file isFile => ?_
    simpa using ((AnalysisResult.status_eq_clean_iff result).mp clean file isFile).1
  unfold showFault?
  split
  · rfl
  · rw [shownNotices_fault_iff, notices, noFailures]
    simpa using exists_line_summary result

/-- What is told of a result: in JSON as a whole, or else its findings line by line, and all notices
if they can be shown. -/
structure Tells (told : Outcome) (request : CheckRequest) (root : Path) (result : AnalysisResult) :
    Prop where
  output : told.output = if request.json then [Json.pretty result.toValue]
    else result.diagnostics.map fun finding => written (findingLine root finding)
  errors : request.json = false → told.crash = none →
    List.Forall₂ (fun notice line => notice.line = .ok line) (notices root result) told.errors

theorem Reports.checkProject (reports : Reports surroundings request settings disk result) :
    runCheck surroundings request = checkProject { surroundings with disk } request settings
      (logOf surroundings request settings) := by
  simp only [runCheck, reports.found, reports.loaded, reports.opened]

theorem exit_of_fault (reports : Reports surroundings request settings disk result) :
    let told := runCheck surroundings request
    let fault := showFault? request (resolve disk request.root) result
    told.exit = (if fault.isSome then 1 else exitStatus result) ∧
      told.crash = fault.map .markup ∧ Tells told request (resolve disk request.root) result := by
  intro told fault
  simp only [told, reports.checkProject, fault]
  cases ran : (projectRun surroundings request settings disk).run.run [] with
  | mk answer events =>
    obtain rfl : answer = .ok result := by
      rw [← reports.yields [], ran]
    have ran : (ExceptT.run (Check.check surroundings.installation disk settings
        (resolve disk request.root) (request.paths.map (resolve disk)) request.checks
        surroundings.duration)).run [] = (.ok result, events) := ran
    simp only [CommandLine.checkProject, ran]
    unfold showFault?
    by_cases json : request.json = true
    · simp only [if_pos json]
      refine ⟨rfl, rfl, ?_, fun text => ?_⟩
      · exact (if_pos json).symm
      · exact absurd (text.symm.trans json) Bool.false_ne_true
    · simp only [if_neg json]
      refine ⟨trivial, trivial, ?_, fun _ silent => ?_⟩
      · exact (if_neg json).symm
      · exact shownNotices_lines (Option.map_eq_none_iff.mp silent)

/-- A request that ends with status 0 has come to a result. -/
theorem exists_reports_of_exit (zero : (runCheck surroundings request).exit = 0) :
    ∃ settings disk result, Reports surroundings request settings disk result := by
  unfold runCheck at zero
  split at zero
  next => cases zero
  next found =>
    dsimp only at zero
    split at zero
    next => cases zero
    next => cases zero
    next settings loaded =>
      split at zero
      next => cases zero
      next disk opened =>
        cases ran : (projectRun surroundings request settings disk).run.run [] with
        | mk answer events =>
          have ran : (ExceptT.run (Check.check surroundings.installation disk settings
              (resolve disk request.root) (request.paths.map (resolve disk)) request.checks
              surroundings.duration)).run [] = (answer, events) := ran
          simp only [CommandLine.checkProject, ran] at zero
          cases answer with
          | error failure => cases zero
          | ok result =>
            exact ⟨settings, disk, result, ⟨found, loaded, opened⟩,
              comesTo_check.yields (congrArg Prod.fst ran)⟩

/-- A check with a result ends with status 0 if there are no findings, and this can be shown. -/
theorem Reports.exit_eq_zero_iff (reports : Reports surroundings request settings disk result) :
    (runCheck surroundings request).exit = 0 ↔
      (runCheck surroundings request).crash = none ∧ result.diagnostics = [] := by
  obtain ⟨exit, crash, -⟩ := exit_of_fault reports
  rw [exit, crash, Option.map_eq_none_iff]
  cases showFault? request (resolve disk request.root) result with
  | some fault => simp
  | none => simp [exitStatus]

/-- A request for known checks comes to a result, once it is prepared and there is a grammar. -/
theorem Prepared.exists_reports (prepared : Prepared surroundings request settings disk)
    {grammar : Grammar} (installed : surroundings.installation = .available grammar)
    (known : ∀ id ∈ request.checks, id ∈ CheckKind.all.map CheckKind.id) :
    ∃ result, Reports surroundings request settings disk result := by
  obtain ⟨result, yields, -⟩ := exists_result grammar disk settings (resolve disk request.root)
    (request.paths.map (resolve disk)) known surroundings.duration
  rw [← installed] at yields
  exact ⟨result, prepared, yields⟩

/-! ### The exit status -/

/-- A check ends with status 0 only with a result, and a prepared request for known checks has one.
With a result it ends with status 0 exactly if the result can be shown and there is no finding about
any file, as is so if the result is clean: if every file is skipped, or analysed to the end without
a finding. The status of the result tells whether a file failed. What was found about a file is
listed and counted however the file ends; of a file that failed, this is what the checks found that
ended before the one that failed. -/
theorem exit_of_runCheck (surroundings : Surroundings) (request : CheckRequest) :
    let told := runCheck surroundings request
    (told.exit = 0 → ∃ settings disk result,
      Reports surroundings request settings disk result) ∧
    (∀ settings disk grammar, Prepared surroundings request settings disk →
      surroundings.installation = .available grammar →
      (∀ id ∈ request.checks, id ∈ CheckKind.all.map CheckKind.id) →
      ∃ result, Reports surroundings request settings disk result) ∧
    ∀ settings disk result, Reports surroundings request settings disk result →
      ∃ checks, resolveChecks settings request.checks = .ok checks ∧
        let files := filesOfRequest request disk
        let ends := Ends surroundings.installation disk settings checks
        TellsEnds surroundings.installation disk settings checks files result.files ∧
        (told.exit = 0 ↔ told.crash = none ∧ ∀ path ∈ files, ∃ status, ends path status []) ∧
        (result.status = .clean → told.exit = 0) ∧
        (result.status = .clean ↔
          ∀ path ∈ files, ends path .skipped [] ∨ ends path .clean []) ∧
        (result.status = .failed ↔ ∃ path ∈ files, ∃ before, ends path .failed before) ∧
        (∀ path ∈ files, ∀ status found, ends path status found →
          found ⊆ result.diagnostics) ∧
        result.diagnostics.length = (result.files.map fun file => file.diagnostics.length).sum ∧
        Tells told request (resolve disk request.root) result := by
  intro told
  refine ⟨exists_reports_of_exit, fun _ _ _ prepared installed known =>
    prepared.exists_reports installed known, fun settings disk result reports => ?_⟩
  obtain ⟨checks, resolved, tells⟩ := tellsEnds_of_yields reports.yields
  obtain ⟨-, crash, shown⟩ := exit_of_fault reports
  refine ⟨checks, resolved, tells, ?_, fun clean => ?_, tells.status_eq_clean_iff,
    tells.status_eq_failed_iff, fun _ isPath _ _ ends => tells.subset_diagnostics isPath ends,
    List.length_flatMap, shown⟩
  · exact reports.exit_eq_zero_iff.trans (and_congr_right' tells.diagnostics_eq_nil_iff)
  · refine reports.exit_eq_zero_iff.mpr ⟨?_, tells.diagnostics_of_clean clean⟩
    rw [crash, showFault?_of_clean clean]
    rfl

/-! A file with two stars in its name, whose checks fail. -/

/-- A project with some files in one directory, each of which holds a class. -/
def userProject (names : List String) : Surroundings where
  disk := ⟨[], (["app"], .directory) :: (["app", "models"], .directory) ::
    names.map fun name => (["app", "models", name], .file "class User\nend\n".toUTF8)⟩
  installation := .available fun _ => construct "program" 0 15 none
    [construct "class" 0 14 none
      [token "class" 0 5, construct "constant" 6 10 (some "name") [], token "end" 11 14]]
  environment := []
  homes := ⟨"/root", []⟩
  time := ""
  runId := ""
  duration := .whole 0

/-- A request for one check of some files. -/
def specCheck (names : List String) : CheckRequest where
  paths := names.map ("app/models/" ++ ·)
  checks := [CheckKind.fileHasSpec.id]
  json := true

def mixedProject : Surroundings := userProject ["a**b.rb", "user.rb"]

def mixedCheck : CheckRequest := specCheck ["a**b.rb", "user.rb"]

theorem prepared_mixedProject : Prepared mixedProject mixedCheck {} mixedProject.disk where
  found := by decide +kernel
  loaded := rfl
  opened := rfl

def userFinding : Diagnostic :=
  .atLocation "/app/models/user.rb" CheckKind.fileHasSpec.id "missing_spec_file"
    "Missing spec file. Expected spec/models/user_spec.rb" (some ⟨1, 0, 3, 0⟩) []

/-- Next to a file that fails there is one with a finding, which is listed, and counts. -/
theorem exit_of_runCheck_mixed :
    ∃ result, Reports mixedProject mixedCheck {} mixedProject.disk result ∧
      result.status = .failed ∧ userFinding ∈ result.diagnostics ∧
      (runCheck mixedProject mixedCheck).exit ≠ 0 ∧
      (runCheck mixedProject mixedCheck).output = [Json.pretty result.toValue] := by
  obtain ⟨-, comes, each⟩ := exit_of_runCheck mixedProject mixedCheck
  obtain ⟨result, reports⟩ := comes {} _ _ prepared_mixedProject rfl (by decide)
  obtain ⟨checks, resolved, -, zero, -, -, failed, kept, -, shown⟩ := each _ _ result reports
  have one : resolveChecks {} mixedCheck.checks = .ok [.fileHasSpec] := rfl
  obtain rfl := Except.ok.inj (resolved.symm.trans one)
  have fails : Ends mixedProject.installation mixedProject.disk {} [.fileHasSpec] starredFile
      .failed [] := by
    apply ends_of_answer
    decide +kernel
  have finds : Ends mixedProject.installation mixedProject.disk {} [.fileHasSpec]
      ⟨"/", ["app", "models", "user.rb"]⟩ .dirty [userFinding] := by
    apply ends_of_answer
    decide +kernel
  have isFile : starredFile ∈ filesOfRequest mixedCheck mixedProject.disk := by decide +kernel
  have isUser : ⟨"/", ["app", "models", "user.rb"]⟩ ∈
      filesOfRequest mixedCheck mixedProject.disk := by
    decide +kernel
  refine ⟨result, reports, failed.mpr ⟨_, isFile, [], fails⟩,
    kept _ isUser _ _ finds List.mem_cons_self, fun success => ?_, shown.output⟩
  obtain ⟨status, quiet⟩ := (zero.mp success).2 _ isUser
  exact absurd (finds.unique quiet).2 (List.cons_ne_nil _ _)

def failedProject : Surroundings := userProject ["a**b.rb"]

def failedCheck : CheckRequest := specCheck ["a**b.rb"]

theorem prepared_failedProject : Prepared failedProject failedCheck {} failedProject.disk where
  found := by decide +kernel
  loaded := rfl
  opened := rfl

/-- A run whose only file fails ends with status 0, though its result is not clean. -/
theorem failed_run_ends_with_zero :
    ∃ result, Reports failedProject failedCheck {} failedProject.disk result ∧
      (runCheck failedProject failedCheck).exit = 0 ∧ result.status = .failed := by
  obtain ⟨result, reports⟩ := prepared_failedProject.exists_reports rfl (by decide)
  refine ⟨result, reports, by decide +kernel, ?_⟩
  have failed : ((projectRun failedProject failedCheck {} failedProject.disk).run.run
      []).1.toOption.map (·.status) = some .failed := by
    decide +kernel
  rw [reports.yields []] at failed
  exact Option.some.inj failed

end SpecLint.CommandLine
