import SpecLint.Code.Location
import SpecLint.Data.Rendered

/-!
# Diagnostics

A diagnostic is one finding of one check at a place in a source file. The details carry the numbers
that its message was made of.
-/
namespace SpecLint

open SpecLint.Data

inductive Severity where
  | error
  | warning
  | info
  | hint
  deriving DecidableEq, Repr

namespace Severity

def name : Severity → String
  | error => "error"
  | warning => "warning"
  | info => "info"
  | hint => "hint"

def all : List Severity := [error, warning, info, hint]

def ofName? (name : String) : Option Severity := all.find? (·.name == name)

theorem ofName?_name (severity : Severity) : ofName? severity.name = some severity := by
  cases severity <;> decide

end Severity

structure Diagnostic where
  path : String
  line : Int
  message : String
  /-- The check that found it. -/
  source : String
  severity : Severity := .warning
  column : Option Int := none
  endLine : Option Int := none
  endColumn : Option Int := none
  code : Option String := none
  details : List (String × Int) := []
  deriving DecidableEq, Repr

namespace Diagnostic

def toValue (diagnostic : Diagnostic) : Value :=
  .record [("path", .text diagnostic.path), ("line", .int diagnostic.line),
    ("message", .text diagnostic.message), ("source", .text diagnostic.source),
    ("severity", .text diagnostic.severity.name), ("column", .optional .int diagnostic.column),
    ("end_line", .optional .int diagnostic.endLine),
    ("end_column", .optional .int diagnostic.endColumn), ("code", .optional .text diagnostic.code),
    ("details", .record (diagnostic.details.map fun (name, number) => (name, .int number)))]

/-- A finding at a location; without one it is put at the start of the file. -/
def atLocation (path source code message : String) (loc : Option Code.Location)
    (details : List (String × Int)) : Diagnostic :=
  match loc with
  | some loc =>
    { path, message, source, line := loc.line, column := some loc.column,
      endLine := some loc.endLine, endColumn := some loc.endColumn, code := some code, details }
  | none => { path, message, source, line := 1, column := some 0, code := some code, details }

end Diagnostic

end SpecLint
