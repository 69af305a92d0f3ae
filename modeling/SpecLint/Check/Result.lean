import SpecLint.Check.Diagnostic

/-!
# Results

Every file of a run has a result of its own; the result of the run is made of them. A run is as good
as its worst file: a failed one, then one with findings. Skipped files do not count as checked.
-/
namespace SpecLint

open SpecLint.Data SpecLint.Number

inductive FileStatus where
  | clean
  | dirty
  | failed
  | skipped
  deriving DecidableEq, Repr

def FileStatus.name : FileStatus → String
  | clean => "clean"
  | dirty => "dirty"
  | failed => "error"
  | skipped => "skipped"

namespace FileStatus

def all : List FileStatus := [clean, dirty, failed, skipped]

def ofName? (name : String) : Option FileStatus := all.find? (·.name == name)

theorem ofName?_name (status : FileStatus) : ofName? status.name = some status := by
  cases status <;> decide

end FileStatus

structure FileResult where
  path : String
  status : FileStatus
  diagnostics : List Diagnostic := []
  checksRun : List String := []
  errorDetail : Option String := none
  deriving DecidableEq, Repr

namespace FileResult

def toValue (file : FileResult) : Value :=
  .record [("path", .text file.path), ("status", .text file.status.name),
    ("diagnostics", .list (file.diagnostics.map Diagnostic.toValue)),
    ("checks_run", .list (file.checksRun.map .text)),
    ("error_detail", .optional .text file.errorDetail)]

end FileResult

/-- A time span in seconds. -/
inductive Duration where
  | whole (seconds : Int)
  | measured (seconds : Binary64)
  deriving DecidableEq, Repr

namespace Duration

/-- To the nearest thousandth. -/
def rounded : Duration → Duration
  | whole seconds => whole seconds
  | measured seconds => measured (seconds.roundPlaces 3)

def toValue : Duration → Value
  | whole seconds => .int seconds
  | measured seconds => .float seconds

end Duration

structure AnalysisResult where
  files : List FileResult
  duration : Duration
  deriving DecidableEq, Repr

namespace AnalysisResult

def diagnostics (result : AnalysisResult) : List Diagnostic := result.files.flatMap (·.diagnostics)

def failures (result : AnalysisResult) : List FileResult :=
  result.files.filter (·.status = .failed)

def filesChecked (result : AnalysisResult) : Nat := result.files.countP (·.status ≠ .skipped)

def status (result : AnalysisResult) : FileStatus :=
  if result.files.any (·.status = .failed) then .failed
  else if result.files.any (·.status = .dirty) then .dirty
  else .clean

def failureValues (result : AnalysisResult) : List Value :=
  result.failures.map fun file =>
    .record [("path", .text file.path), ("error", .optional .text file.errorDetail)]

def toValue (result : AnalysisResult) : Value :=
  .record [("status", .text result.status.name), ("files_checked", .nat result.filesChecked),
    ("duration_seconds", result.duration.rounded.toValue),
    ("diagnostics", .list (result.diagnostics.map Diagnostic.toValue)),
    ("errors", .list result.failureValues)]

theorem status_eq_failed_iff (result : AnalysisResult) :
    result.status = .failed ↔ ∃ file ∈ result.files, file.status = .failed := by
  simp only [status]
  split
  next some => simpa using some
  next none =>
    have absent : ¬∃ file ∈ result.files, file.status = .failed := by simpa using none
    simp only [absent, iff_false]
    split <;> simp

/-- A run is clean when no file failed and none has findings. -/
theorem status_eq_clean_iff (result : AnalysisResult) :
    result.status = .clean ↔
      ∀ file ∈ result.files, file.status ≠ .failed ∧ file.status ≠ .dirty := by
  simp only [status]
  split
  next some =>
    simp only [reduceCtorEq, false_iff]
    obtain ⟨file, member, failed⟩ := List.any_eq_true.mp some
    intro all
    exact (all file member).1 (by simpa using failed)
  next noFailure =>
    split
    next some =>
      simp only [reduceCtorEq, false_iff]
      obtain ⟨file, member, dirty⟩ := List.any_eq_true.mp some
      intro all
      exact (all file member).2 (by simpa using dirty)
    next noFinding =>
      simp only [List.any_eq_true, decide_eq_true_eq, not_exists, not_and] at noFailure noFinding
      simp only [true_iff]
      exact fun file member => ⟨noFailure file member, noFinding file member⟩

end AnalysisResult

end SpecLint
