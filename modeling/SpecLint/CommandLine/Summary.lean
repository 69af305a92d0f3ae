import SpecLint.Check.Result
import SpecLint.Path.Basic
import SpecLint.Report.Count
import SpecLint.Report.Event
import SpecLint.Report.Status

/-!
# The result for the user

Every finding is a line with its place, its check and its message; columns count from one here.
Failed files and a summary follow as status lines. The exit status tells whether there is a finding.
-/
namespace SpecLint.CommandLine

open SpecLint.Report SpecLint.Data

/-- A path below the root of the project is shown from there. -/
def displayPath (root : Path) (written : String) : String :=
  match (Path.ofString written).relativeTo? root with
  | some path => path.toString
  | none => written

def numberText (n : Int) : String := String.ofList (intText n)

/-- A finding on one line. -/
def findingLine (root : Path) (diagnostic : Diagnostic) : String :=
  let column := match diagnostic.column with
    | some column => ":" ++ numberText (column + 1)
    | none => ""
  displayPath root diagnostic.path ++ ":" ++ numberText diagnostic.line ++ column ++ ": [" ++
    diagnostic.source ++ "] " ++ diagnostic.message

/-- A status line by its text and style. -/
structure Notice where
  text : String
  style : String
  deriving DecidableEq, Repr

def Notice.line (notice : Notice) : Except MarkupFault String :=
  plainStatus notice.text notice.style

def Notice.event (notice : Notice) : Event := .status notice.text notice.style

/-- How many files were checked and how many findings there are. -/
def summary (result : AnalysisResult) : Notice :=
  ⟨countedNat result.filesChecked "file" none ++ " checked, " ++
      countedNat result.diagnostics.length "offense" none,
    if result.status = .clean then "success" else "warning"⟩

/-- A file that failed, with the reason. -/
def failureNotice (root : Path) (file : FileResult) : Notice :=
  ⟨displayPath root file.path ++ ": " ++ file.errorDetail.getD "None", "error"⟩

def notices (root : Path) (result : AnalysisResult) : List Notice :=
  result.failures.map (failureNotice root) ++ [summary result]

/-- The notices with their lines, up to the first that cannot be shown. -/
def shownNotices : List Notice → List (Notice × String) × Option MarkupFault
  | [] => ([], none)
  | notice :: rest => match notice.line with
    | .error fault => ([], some fault)
    | .ok line =>
      let (shown, fault) := shownNotices rest
      ((notice, line) :: shown, fault)

/-- The exit status of a run that came to a result. -/
def exitStatus (result : AnalysisResult) : Nat := if result.diagnostics.isEmpty then 0 else 1

theorem exitStatus_eq_zero_iff (result : AnalysisResult) :
    exitStatus result = 0 ↔ ∀ file ∈ result.files, file.diagnostics = [] := by
  simp [exitStatus, AnalysisResult.diagnostics]

end SpecLint.CommandLine
