import SpecLint.Proofs.Check.Reach

/-!
# How the files of a run end

A file outside of the covered directories is skipped. All others are analysed, check after check, and
fail if they cannot be read or if a check fails; what the checks before it have found is kept. A run
that comes to a result has one such end for each of its files.

## Main results

* `ends_iff`: how a file ends is what its result says.
* `tellsEnds_of_yields`: the result of a run says of each of its files how it ends.
* `TellsEnds.status_eq_clean_iff`, `TellsEnds.status_eq_failed_iff`: what the status says of them.
-/
namespace SpecLint.Check

open SpecLint.Code
open SpecLint.Code.Concrete (construct token)

/-! ### Checks in a row -/

/-- Checks that come to an end one after the other, with all that they find. -/
inductive Concludes (context : Context) : List CheckKind → List Diagnostic → Prop
  | none : Concludes context [] []
  | check {kind : CheckKind} {kinds : List CheckKind} {found rest : List Diagnostic}
      (ends : outcome context kind = .ok found) (others : Concludes context kinds rest) :
      Concludes context (kind :: kinds) (found ++ rest)

/-- Checks of which one fails, with all that those before it find. -/
def BreaksOff (context : Context) (kinds : List CheckKind) (found : List Diagnostic) : Prop :=
  ∃ before kind after fault, kinds = before ++ kind :: after ∧ Concludes context before found ∧
    outcome context kind = .error fault

variable {context : Context} {kinds : List CheckKind} {found : List Diagnostic}

theorem concludes_iff : Concludes context kinds found ↔ outcomes context kinds = (found, none) := by
  constructor
  · intro concludes
    induction concludes with
    | none => rfl
    | check ends _ ih => rw [outcomes, ends, ih]
  · intro all
    induction kinds generalizing found with
    | nil =>
      obtain rfl := congrArg Prod.fst all
      exact .none
    | cons kind kinds ih =>
      rw [outcomes] at all
      split at all
      next => cases all
      next here ends =>
        obtain ⟨rfl, finished⟩ := Prod.mk.inj all
        exact .check ends (ih (Prod.ext rfl finished))

theorem breaksOff_iff :
    BreaksOff context kinds found ↔ ∃ fault, outcomes context kinds = (found, some fault) := by
  constructor
  · rintro ⟨before, kind, after, fault, rfl, concludes, fails⟩
    refine ⟨fault, ?_⟩
    induction concludes with
    | none => rw [List.nil_append, outcomes, fails]
    | check ends _ ih => rw [List.cons_append, outcomes, ends, ih]
  · rintro ⟨fault, all⟩
    induction kinds generalizing found with
    | nil => cases all
    | cons kind kinds ih =>
      rw [outcomes] at all
      split at all
      next stops fails =>
        obtain ⟨rfl, -⟩ := Prod.mk.inj all
        exact ⟨[], kind, kinds, stops, rfl, .none, fails⟩
      next here ends =>
        obtain ⟨rfl, failed⟩ := Prod.mk.inj all
        obtain ⟨before, other, after, stops, rfl, concludes, fails⟩ := ih (Prod.ext rfl failed)
        exact ⟨kind :: before, other, after, stops, rfl, .check ends concludes, fails⟩

/-! ### One file -/

section File

variable (installation : Installation) (disk : Disk) (settings : Settings)

/-- A covered file that can be read and parsed, with the context of its checks. -/
def Opens (path : Path) (context : Context) : Prop :=
  Layout.isCheckable path = true ∧ ∃ bytes grammar, disk.readBytes path = .ok bytes ∧
    installation.grammar = .ok grammar ∧
    context = ⟨⟨disk, grammar⟩, Parsed.ofBytes grammar path bytes, settings⟩

/-- How a file ends in a run of some checks, with the findings about it. -/
inductive Ends (checks : List CheckKind) (path : Path) : FileStatus → List Diagnostic → Prop
  | skipped (uncovered : Layout.isCheckable path = false) : Ends checks path .skipped []
  | unreadable {fault : ReadFault} (covered : Layout.isCheckable path = true)
      (fails : disk.readBytes path = .error fault) : Ends checks path .failed []
  | broken {context : Context} {found : List Diagnostic}
      (opens : Opens installation disk settings path context)
      (breaks : BreaksOff context checks found) : Ends checks path .failed found
  | clean {context : Context} (opens : Opens installation disk settings path context)
      (concludes : Concludes context checks []) : Ends checks path .clean []
  | dirty {context : Context} {found : List Diagnostic}
      (opens : Opens installation disk settings path context)
      (concludes : Concludes context checks found) (some : found ≠ []) :
      Ends checks path .dirty found

end File

variable {installation : Installation} {disk : Disk} {settings : Settings}
  {checks : List CheckKind} {path : Path} {status : FileStatus}

theorem checkFile_of_opens (checks : List CheckKind)
    (opens : Opens installation disk settings path context) :
    ∃ events, checkFile installation disk settings checks path =
      .ok (fileResult path checks (outcomes context checks).1
        ((outcomes context checks).2.map .wildcard), events) := by
  obtain ⟨covered, bytes, grammar, reads, parses, rfl⟩ := opens
  refine ⟨(analyse ⟨disk, grammar⟩ settings checks (Parsed.ofBytes grammar path bytes)).2, ?_⟩
  simp only [checkFile, covered, reads, parses]
  exact congrArg Except.ok (Prod.ext (result_analyse ..) rfl)

theorem ends_of_opens (opens : Opens installation disk settings path context) :
    let file := fileResult path checks (outcomes context checks).1
      ((outcomes context checks).2.map .wildcard)
    file.path = path.toString ∧
      Ends installation disk settings checks path file.status file.diagnostics := by
  cases all : outcomes context checks with
  | mk found fault =>
    cases fault with
    | some fault => exact ⟨rfl, .broken opens (breaksOff_iff.mpr ⟨fault, all⟩)⟩
    | none =>
      have concludes := concludes_iff.mpr all
      cases found with
      | nil => exact ⟨rfl, .clean opens concludes⟩
      | cons first rest => exact ⟨rfl, .dirty opens concludes (List.cons_ne_nil first rest)⟩

theorem ends_of_checkFile {file : FileResult} {events : List Report.Event}
    (checked : checkFile installation disk settings checks path = .ok (file, events)) :
    file.path = path.toString ∧
      Ends installation disk settings checks path file.status file.diagnostics := by
  have whole := checked
  unfold checkFile at checked
  split at checked
  next uncovered =>
    cases checked
    exact ⟨rfl, .skipped (by simpa using uncovered)⟩
  next covered =>
    have covered : Layout.isCheckable path = true := by simpa using covered
    split at checked
    next fault fails =>
      cases checked
      exact ⟨rfl, .unreadable covered fails⟩
    next bytes reads =>
      obtain ⟨grammar, parses, -⟩ := exists_of_bind_eq_ok checked
      have opens : Opens installation disk settings path _ :=
        ⟨covered, bytes, grammar, reads, parses, rfl⟩
      obtain ⟨again, same⟩ := checkFile_of_opens checks opens
      obtain ⟨rfl, -⟩ := Prod.mk.inj (Except.ok.inj (whole.symm.trans same))
      exact ends_of_opens opens

/-- How a file ends is what its result says. -/
theorem ends_iff :
    Ends installation disk settings checks path status found ↔
      ∃ file events, checkFile installation disk settings checks path = .ok (file, events) ∧
        file.path = path.toString ∧ file.status = status ∧ file.diagnostics = found := by
  constructor
  · intro ends
    cases ends with
    | skipped uncovered => exact ⟨_, _, by simp only [checkFile, uncovered]; rfl, rfl, rfl, rfl⟩
    | unreadable covered fails =>
      exact ⟨_, _, by simp only [checkFile, covered, fails]; rfl, rfl, rfl, rfl⟩
    | broken opens breaks =>
      obtain ⟨events, checked⟩ := checkFile_of_opens checks opens
      obtain ⟨fault, all⟩ := breaksOff_iff.mp breaks
      rw [all] at checked
      exact ⟨_, events, checked, rfl, rfl, rfl⟩
    | clean opens concludes =>
      obtain ⟨events, checked⟩ := checkFile_of_opens checks opens
      rw [concludes_iff.mp concludes] at checked
      exact ⟨_, events, checked, rfl, rfl, rfl⟩
    | dirty opens concludes some =>
      obtain ⟨events, checked⟩ := checkFile_of_opens checks opens
      rw [concludes_iff.mp concludes] at checked
      refine ⟨_, events, checked, rfl, ?_, rfl⟩
      exact if_neg (by simpa using some)
  · rintro ⟨file, events, checked, -, rfl, rfl⟩
    exact (ends_of_checkFile checked).2

/-- How a file ends can be computed. -/
theorem ends_of_answer (answered : ((checkFile installation disk settings checks path).toOption.map
      fun answer => (answer.1.status, answer.1.diagnostics)) = some (status, found)) :
    Ends installation disk settings checks path status found := by
  obtain ⟨answer, checked, told⟩ := Option.map_eq_some_iff.mp answered
  obtain ⟨rfl, rfl⟩ := Prod.mk.inj told
  exact (ends_of_checkFile (eq_ok_of_toOption checked)).2

/-- A file ends in one way only. -/
theorem Ends.unique {other : FileStatus} {others : List Diagnostic}
    (ends : Ends installation disk settings checks path status found)
    (again : Ends installation disk settings checks path other others) :
    status = other ∧ found = others := by
  obtain ⟨file, events, checked, -, rfl, rfl⟩ := ends_iff.mp ends
  obtain ⟨same, events', checked', -, rfl, rfl⟩ := ends_iff.mp again
  obtain ⟨rfl, -⟩ := Prod.mk.inj (Except.ok.inj (checked.symm.trans checked'))
  exact ⟨rfl, rfl⟩

theorem Ends.silent_of_skipped
    (ends : Ends installation disk settings checks path .skipped found) : found = [] := by
  cases ends
  rfl

theorem Ends.silent_of_clean
    (ends : Ends installation disk settings checks path .clean found) : found = [] := by
  cases ends
  rfl

/-! ### A file that fails

No directory can answer a wildcard with two stars in a row. So the checks of a file fail that has
them in its name, as soon as they look for the specs of a unit with a name. -/

def starredDisk : Disk :=
  ⟨[], [(["app"], .directory), (["app", "models"], .directory),
    (["app", "models", "a**b.rb"], .file "class\nend\ndef bar\nend\n".toUTF8)]⟩

def starredFile : Path := ⟨"/", ["app", "models", "a**b.rb"]⟩

/-- A class without a name, and a method outside. -/
def namelessTree : Concrete :=
  construct "program" 0 22 none
    [construct "class" 0 9 none
      [token "class" 0 5, .node "constant" true true 5 5 (some "name") [], token "end" 6 9],
      construct "method" 10 21 none
        [token "def" 10 13, construct "identifier" 14 17 (some "name") [], token "end" 18 21]]

-- The class has no name to look for, so the first check concludes. The method belongs to a unit
-- that is named after the file, so the second one fails.
example :
    Ends (.available fun _ => namelessTree) starredDisk
      { publicMethodHasSpec := { excluded := [] } } CheckKind.all starredFile .failed
      [.atLocation starredFile.toString CheckKind.fileHasSpec.id "missing_spec_file"
        "Missing spec file. Expected spec/models/a**b_spec.rb" (some ⟨1, 0, 5, 0⟩) []] := by
  apply ends_of_answer
  decide +kernel

/-! ### Runs -/

/-- What a run comes to, whatever was reported before. -/
def Run.ComesTo {α : Type} (run : Run α) (outcome : Except Report.Failure α) : Prop :=
  ∀ events, (run.run.run events).1 = outcome

section ComesTo

variable {α β : Type}

theorem Run.ComesTo.yields_iff {run : Run α} {outcome : Except Report.Failure α}
    (comes : run.ComesTo outcome) {answer : α} : run.Yields answer ↔ outcome = .ok answer :=
  ⟨fun yields => (comes []).symm.trans (yields []), fun same events => (comes events).trans same⟩

theorem Run.ComesTo.yields {run : Run α} {outcome : Except Report.Failure α}
    (comes : run.ComesTo outcome) {events : List Report.Event} {answer : α}
    (answered : (run.run.run events).1 = .ok answer) : run.Yields answer :=
  comes.yields_iff.mpr ((comes events).symm.trans answered)

theorem Run.comesTo_pure (answer : α) : Run.ComesTo (pure answer) (.ok answer) := fun _ => rfl

theorem Run.ComesTo.after_report {next : PUnit → Run α} {outcome : Except Report.Failure α}
    (comes : (next ⟨⟩).ComesTo outcome) (reported : List Report.Event) :
    (Run.report reported >>= next).ComesTo outcome :=
  fun events => comes (events ++ reported)

theorem Run.comesTo_lift (outcome : Except Report.Failure α) :
    Run.ComesTo (liftM outcome : Run α) outcome := by
  cases outcome <;> exact fun _ => rfl

theorem Run.ComesTo.bind {run : Run α} {next : α → Run β} {outcome : Except Report.Failure α}
    {step : α → Except Report.Failure β} (first : run.ComesTo outcome)
    (second : ∀ answer, (next answer).ComesTo (step answer)) :
    (run >>= next).ComesTo (outcome >>= step) := by
  intro events
  have unfolded : (run >>= next).run.run events =
      ExceptT.bindCont next (run.run.run events).1 (run.run.run events).2 := rfl
  rw [unfolded, first events]
  cases outcome with
  | error failure => rfl
  | ok answer => exact second answer _

theorem Run.comesTo_mapM {act : α → Run β} {step : α → Except Report.Failure β}
    (each : ∀ item, (act item).ComesTo (step item)) (items : List α) :
    (items.mapM act).ComesTo (items.mapM step) := by
  induction items with
  | nil => exact comesTo_pure []
  | cons item items ih =>
    rw [List.mapM_cons, List.mapM_cons]
    exact (each item).bind fun answer => ih.bind fun answers => comesTo_pure (answer :: answers)

end ComesTo

variable {root : Path} {arguments : List Path} {ids : List String} {duration : Duration}
  {result : AnalysisResult}

theorem comesTo_checkFiles (files : List Path) :
    (checkFiles installation disk settings checks files).ComesTo
      (files.mapM fun path => (checkFile installation disk settings checks path).map Prod.fst) := by
  refine Run.comesTo_mapM (fun path => ?_) files
  cases checkFile installation disk settings checks path <;> exact fun _ => rfl

/-- A run resolves its checks and checks its files; all else only reports how far it has come. -/
theorem comesTo_check :
    (check installation disk settings root arguments ids duration).ComesTo
      (resolveChecks settings ids >>= fun checks =>
        ((discover disk (targets root arguments)).mapM fun path =>
          (checkFile installation disk settings checks path).map Prod.fst) >>= fun results =>
        .ok ⟨results, duration⟩) := by
  unfold check
  refine (Run.comesTo_lift _).bind fun checks => ?_
  apply Run.ComesTo.after_report
  apply Run.ComesTo.after_report
  apply Run.ComesTo.after_report
  refine (comesTo_checkFiles _).bind fun results => ?_
  apply Run.ComesTo.after_report
  apply Run.ComesTo.after_report
  exact Run.comesTo_pure _

/-- A result of a run says of each file how it ends. -/
def TellsEnds (installation : Installation) (disk : Disk) (settings : Settings)
    (checks : List CheckKind) (files : List Path) (results : List FileResult) : Prop :=
  List.Forall₂ (fun path file => file.path = path.toString ∧
    Ends installation disk settings checks path file.status file.diagnostics) files results

theorem tellsEnds_of_mapM {files : List Path} {results : List FileResult}
    (done : (files.mapM fun path =>
      (checkFile installation disk settings checks path).map Prod.fst) = .ok results) :
    TellsEnds installation disk settings checks files results := by
  refine (mapM_eq_ok_iff.mp done).imp fun path file answered => ?_
  obtain ⟨⟨told, events⟩, checked, rfl⟩ := exists_of_map_eq_ok answered
  exact ends_of_checkFile checked

/-- A run that comes to a result has asked for known checks, and says how each of its files ends. -/
theorem tellsEnds_of_yields
    (yields : (check installation disk settings root arguments ids duration).Yields result) :
    ∃ checks, resolveChecks settings ids = .ok checks ∧
      TellsEnds installation disk settings checks (discover disk (targets root arguments))
        result.files := by
  obtain ⟨checks, resolved, done⟩ := exists_of_bind_eq_ok (comesTo_check.yields_iff.mp yields)
  obtain ⟨results, told, same⟩ := exists_of_bind_eq_ok done
  cases same
  exact ⟨checks, resolved, tellsEnds_of_mapM told⟩

/-! ### The status of a run -/

theorem exists_of_mem_forall₂ {α β : Type} {related : α → β → Prop} {left : List α}
    {right : List β} (paired : List.Forall₂ related left right) {item : α} (member : item ∈ left) :
    ∃ other ∈ right, related item other := by
  induction paired with
  | nil => cases member
  | @cons first other _ _ here _ ih =>
    rcases List.mem_cons.mp member with rfl | later
    · exact ⟨other, List.mem_cons_self, here⟩
    · obtain ⟨found, isFound, isRelated⟩ := ih later
      exact ⟨found, List.mem_cons_of_mem _ isFound, isRelated⟩

namespace TellsEnds

variable {files : List Path}
  (tells : TellsEnds installation disk settings checks files result.files)
include tells

theorem exists_file (member : path ∈ files) :
    ∃ file ∈ result.files,
      Ends installation disk settings checks path file.status file.diagnostics := by
  obtain ⟨file, isFile, -, ends⟩ := exists_of_mem_forall₂ tells member
  exact ⟨file, isFile, ends⟩

theorem exists_path {file : FileResult} (member : file ∈ result.files) :
    ∃ path ∈ files,
      Ends installation disk settings checks path file.status file.diagnostics := by
  obtain ⟨path, isPath, -, ends⟩ := exists_of_mem_forall₂ (List.Forall₂.flip tells) member
  exact ⟨path, isPath, ends⟩

/-- A run is clean if all of its files are skipped, or analysed to the end without a finding. -/
theorem status_eq_clean_iff :
    result.status = .clean ↔ ∀ path ∈ files,
      Ends installation disk settings checks path .skipped [] ∨
        Ends installation disk settings checks path .clean [] := by
  rw [AnalysisResult.status_eq_clean_iff]
  constructor
  · intro clean path isPath
    obtain ⟨file, isFile, ends⟩ := tells.exists_file isPath
    obtain ⟨unfailed, unsoiled⟩ := clean file isFile
    cases status : file.status with
    | skipped =>
      rw [status] at ends
      exact .inl (ends.silent_of_skipped ▸ ends)
    | clean =>
      rw [status] at ends
      exact .inr (ends.silent_of_clean ▸ ends)
    | failed => exact absurd status unfailed
    | dirty => exact absurd status unsoiled
  · intro all file isFile
    obtain ⟨path, isPath, ends⟩ := tells.exists_path isFile
    rcases all path isPath with skipped | clean
    · rw [(ends.unique skipped).1]
      decide
    · rw [(ends.unique clean).1]
      decide

/-- A run fails if some of its files fails, whatever was found about it before. -/
theorem status_eq_failed_iff :
    result.status = .failed ↔
      ∃ path ∈ files, ∃ before, Ends installation disk settings checks path .failed before := by
  rw [AnalysisResult.status_eq_failed_iff]
  constructor
  · rintro ⟨file, isFile, failed⟩
    obtain ⟨path, isPath, ends⟩ := tells.exists_path isFile
    exact ⟨path, isPath, file.diagnostics, failed ▸ ends⟩
  · rintro ⟨path, isPath, before, fails⟩
    obtain ⟨file, isFile, ends⟩ := tells.exists_file isPath
    exact ⟨file, isFile, (ends.unique fails).1⟩

/-- What is found about a file is among the findings of the run, however the file ends. -/
theorem subset_diagnostics (isPath : path ∈ files)
    (ends : Ends installation disk settings checks path status found) :
    found ⊆ result.diagnostics := by
  obtain ⟨file, isFile, same⟩ := tells.exists_file isPath
  obtain ⟨-, rfl⟩ := ends.unique same
  exact fun diagnostic member => List.mem_flatMap.mpr ⟨file, isFile, member⟩

/-- A run has no findings if none of its files has any. -/
theorem diagnostics_eq_nil_iff :
    result.diagnostics = [] ↔
      ∀ path ∈ files, ∃ status, Ends installation disk settings checks path status [] := by
  rw [AnalysisResult.diagnostics, List.flatMap_eq_nil_iff]
  constructor
  · intro silent path isPath
    obtain ⟨file, isFile, ends⟩ := tells.exists_file isPath
    exact ⟨file.status, silent file isFile ▸ ends⟩
  · intro silent file isFile
    obtain ⟨path, isPath, ends⟩ := tells.exists_path isFile
    obtain ⟨status, quiet⟩ := silent path isPath
    exact (ends.unique quiet).2

theorem diagnostics_of_clean (clean : result.status = .clean) : result.diagnostics = [] := by
  rw [tells.diagnostics_eq_nil_iff]
  intro path isPath
  rcases tells.status_eq_clean_iff.mp clean path isPath with skipped | whole
  · exact ⟨.skipped, skipped⟩
  · exact ⟨.clean, whole⟩

end TellsEnds

end SpecLint.Check
