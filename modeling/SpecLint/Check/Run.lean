import SpecLint.Check.Result
import SpecLint.Check.Rules
import SpecLint.Report.Progress

/-!
# A run over a project

A run finds the Ruby files under its arguments and checks each of them with the checks asked for.
Files do not influence each other: a file that cannot be analysed to the end has a result of its own
that says so, and the run goes on. Only a missing grammar and a check nobody knows stop the run.
-/
namespace SpecLint.Check

open SpecLint.Code SpecLint.Spec SpecLint.Report

/-- A run may fail as a whole; its events are kept even then. -/
abbrev Run := ExceptT Failure (StateM (List Event))

def Run.report (events : List Event) : Run PUnit := modify fun before => before ++ events

/-- The checks with the given ids; without ids, all that are switched on. -/
def resolveChecks (settings : Settings) (ids : List String) : Except Failure (List CheckKind) :=
  if ids = [] then .ok (CheckKind.all.filter (·.isEnabled settings))
  else ids.mapM fun id =>
    match CheckKind.all.find? (·.id == id) with
    | some kind => .ok kind
    | none => .error (.configValue "checks" (.text id)
        ("unknown check; known: " ++ ", ".intercalate (CheckKind.all.map CheckKind.id)))

/-- Asking for checks by their ids gives these checks, in the order asked for. -/
theorem resolveChecks_ids (settings : Settings) {kinds : List CheckKind} (nonempty : kinds ≠ []) :
    resolveChecks settings (kinds.map CheckKind.id) = .ok kinds := by
  have known (kind : CheckKind) : CheckKind.all.find? (·.id == kind.id) = some kind := by
    cases kind <;> decide
  have named : kinds.map CheckKind.id ≠ [] := by simpa using nonempty
  rw [resolveChecks, if_neg named]
  clear nonempty named
  induction kinds with
  | nil => rfl
  | cons kind rest ih => simp [List.mapM_cons, known, ih]; rfl

/-- The Ruby files at any depth below a directory, in ascending order. -/
def rubyFilesBelow (disk : Disk) (directory : Path) : List Path :=
  match disk.place directory with
  | .error _ => []
  | .ok place =>
    let below := (disk.filesBelow place).filter fun segments =>
      (segments.getLast?.getD "").endsWith Layout.rubySuffix
    (below.map fun segments => (⟨directory.root, directory.segments ++ segments⟩ : Path)).mergeSort
      Path.le

/-- The Ruby files that an argument stands for; none if it has to be ignored. -/
def filesOf (disk : Disk) (path : Path) : Option (List Path) :=
  if disk.isDirectory path then some (rubyFilesBelow disk path)
  else if path.suffix = Layout.rubySuffix ∧ disk.isFile path then some [path]
  else none

/-- Add the files that are not there yet. -/
def addNew (found : List Path) (files : List Path) : List Path :=
  files.foldl (fun found file => if found.contains file then found else found ++ [file]) found

/-- The files under some arguments, each once, in the order in which they are reached. -/
def discover (disk : Disk) (arguments : List Path) : List Path :=
  arguments.foldl (fun found path => addNew found ((filesOf disk path).getD [])) []

/-- Arguments that stand for nothing are reported. -/
def ignored (disk : Disk) (arguments : List Path) : List Event :=
  arguments.filterMap fun path =>
    if (filesOf disk path).isNone then some (.pathIgnored path.toString) else none

/-- Why a file was not analysed to the end. -/
inductive FileFault where
  | unreadable (fault : ReadFault) (path : Path)
  | wildcard (fault : WildcardFault)

/-- How messages name the kind of fault. -/
def FileFault.kind : FileFault → String
  | unreadable fault _ => fault.kind
  | wildcard _ => "ValueError"

def FileFault.message : FileFault → String
  | unreadable fault path => fault.message path
  | wildcard fault => fault.message

/-- The failure that a result tells of. -/
def FileFault.failure (fault : FileFault) (path : Path) : Failure :=
  .unexpected (fault.kind ++ ": " ++ fault.message) [(.text "path", .text path.toString)]

/-- The findings of checks in a row, up to the first that fails. -/
def runChecks (context : Context) :
    List CheckKind → StateM Knowledge (List Diagnostic × Option WildcardFault)
  | [] => return ([], none)
  | kind :: rest => do
    match ← (kind.rule context).run with
    | .error fault => return ([], some fault)
    | .ok found =>
      let (others, fault) ← runChecks context rest
      return (found ++ others, fault)

/-- The result of a file that was analysed, to the end or not. -/
def fileResult (path : Path) (checks : List CheckKind) (diagnostics : List Diagnostic)
    (fault : Option FileFault) : FileResult :=
  match fault with
  | some fault =>
    { path := path.toString, status := .failed, diagnostics, checksRun := checks.map CheckKind.id,
      errorDetail := some (fault.failure path).message }
  | none =>
    { path := path.toString, status := if diagnostics.isEmpty then .clean else .dirty, diagnostics,
      checksRun := checks.map CheckKind.id }

/-- What is reported of a file that failed. -/
def failureEvents (path : Path) : Option FileFault → List Event
  | some fault => [.fileFailed path.toString (fault.failure path).message]
  | none => []

/-- Analyse a parsed file. -/
def analyse (project : Project) (settings : Settings) (checks : List CheckKind) (parsed : Parsed) :
    FileResult × List Event :=
  let context : Context := ⟨project, parsed, settings⟩
  let ((diagnostics, fault), knowledge) := (runChecks context checks).run Knowledge.empty
  let fault := fault.map FileFault.wildcard
  (fileResult parsed.path checks diagnostics fault,
    parsed.events ++ knowledge.events ++ failureEvents parsed.path fault)

/-- Check one file; files outside of the covered directories are skipped. -/
def checkFile (installation : Installation) (disk : Disk) (settings : Settings)
    (checks : List CheckKind) (path : Path) : Except Failure (FileResult × List Event) :=
  if !Layout.isCheckable path then
    .ok ({ path := path.toString, status := .skipped }, [])
  else match disk.readBytes path with
    | .error fault =>
      let fault : FileFault := .unreadable fault path
      .ok (fileResult path checks [] (some fault), failureEvents path (some fault))
    | .ok bytes => do
      let grammar ← installation.grammar
      let parsed := Parsed.ofBytes grammar path bytes
      return analyse ⟨disk, grammar⟩ settings checks parsed

/-- Check files one after the other. -/
def checkFiles (installation : Installation) (disk : Disk) (settings : Settings)
    (checks : List CheckKind) (files : List Path) : Run (List FileResult) :=
  files.mapM fun path => do
    let (result, events) ← (checkFile installation disk settings checks path : Except Failure _)
    Run.report events
    return result

/-- Check the files under some arguments below a root; without arguments, all files of the root. No
bar is shown while the run goes on, as if there were no terminal. -/
def check (installation : Installation) (disk : Disk) (settings : Settings) (root : Path)
    (arguments : List Path) (ids : List String) (duration : Duration) : Run AnalysisResult := do
  let checks ← (resolveChecks settings ids : Except Failure (List CheckKind))
  let targets := if arguments = [] then [root] else arguments.map fun path => root / path
  let files := discover disk targets
  Run.report (ignored disk targets)
  Run.report [.checkStarted files.length (checks.map CheckKind.id)]
  let progress : Progress := { description := "Checking", total := some files.length }
  let display := progress.display false
  Run.report display.started
  let results ← checkFiles installation disk settings checks files
  Run.report display.done
  let result : AnalysisResult := ⟨results, duration⟩
  Run.report [.checkDone result.filesChecked result.diagnostics.length result.status.name]
  return result

end SpecLint.Check
