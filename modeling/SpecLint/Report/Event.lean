import SpecLint.Data.Value

/-!
# Events

What the analyses report about their own work, in the order it happens. An event has a severity, a
name and fields; whether and where it is printed is a matter of the log outputs.
-/
namespace SpecLint.Report

open SpecLint.Data

inductive Level where
  | debug
  | info
  | warning
  | error
  | critical
  deriving DecidableEq, Repr

/-- Levels are compared by their rank. -/
def Level.rank : Level → Nat
  | .debug => 10
  | .info => 20
  | .warning => 30
  | .error => 40
  | .critical => 50

def Level.name : Level → String
  | .debug => "debug"
  | .info => "info"
  | .warning => "warning"
  | .error => "error"
  | .critical => "critical"

def Level.all : List Level := [.debug, .info, .warning, .error, .critical]

/-- Read a level written in lower case. -/
def Level.ofName? (name : String) : Option Level := Level.all.find? (·.name == name)

theorem Level.ofName?_name (level : Level) : Level.ofName? level.name = some level := by
  cases level <;> decide

theorem Level.rank_injective {left right : Level} (same : left.rank = right.rank) :
    left = right := by
  cases left <;> cases right <;> simp_all [rank]

inductive Event where
  /-- A Ruby text has syntax errors. -/
  | syntaxErrors (path : String) (errors : Nat)
  /-- A wildcard spec file does not describe the unit. -/
  | wildcardRejected (path unit : String)
  /-- A spec file cannot be read and counts as empty. -/
  | readFailed (path error : String)
  | covered (key path strategy : String)
  | coveredByAlias (key other path : String)
  /-- A configured alias is no header key. -/
  | aliasIgnored (key written : String)
  /-- No spec file has a header for the routine. -/
  | noHeader (key : String) (unit : Option String)
  | publicRoutines (unit : String) (count : Nat)
  | status (message style : String)
  | progressStarted (description : String) (total : Int)
  | progressDone (description : String) (total : Int)
  /-- An argument is neither a directory nor a Ruby file. -/
  | pathIgnored (path : String)
  | checkStarted (files : Nat) (checks : List String)
  | checkDone (files diagnostics : Nat) (status : String)
  | fileFailed (path error : String)
  deriving Repr

namespace Event

def name : Event → String
  | syntaxErrors .. => "ruby.parse_errors"
  | wildcardRejected .. => "locator.wildcard_rejected"
  | readFailed .. => "spec_cache.read_failed"
  | covered .. => "matcher.covered"
  | coveredByAlias .. => "matcher.covered_by_alias"
  | aliasIgnored .. => "matcher.alias_ignored"
  | noHeader .. => "comparator.no_header"
  | publicRoutines .. => "visibility.public_routines"
  | status .. => "status"
  | progressStarted .. => "progress_start"
  | progressDone .. => "progress_done"
  | pathIgnored .. => "ops.path_ignored"
  | checkStarted .. => "ops.check_start"
  | checkDone .. => "ops.check_done"
  | fileFailed .. => "ops.file_failed"

def level : Event → Level
  | readFailed .. => .warning
  | checkDone .. => .info
  | fileFailed .. => .error
  | _ => .debug

def fields : Event → List (String × Value)
  | syntaxErrors path errors => [("path", .text path), ("errors", .nat errors)]
  | wildcardRejected path unit => [("path", .text path), ("unit", .text unit)]
  | readFailed path error => [("path", .text path), ("error", .text error)]
  | covered key path strategy =>
    [("key", .text key), ("path", .text path), ("strategy", .text strategy)]
  | coveredByAlias key other path =>
    [("key", .text key), ("alias", .text other), ("path", .text path)]
  | aliasIgnored key written => [("key", .text key), ("alias", .text written)]
  | noHeader key unit => [("key", .text key), ("unit", .optional .text unit)]
  | publicRoutines unit count => [("unit", .text unit), ("count", .nat count)]
  | status message style =>
    [("logger", .text "progress"), ("message", .text message), ("style", .text style)]
  | progressStarted description total | progressDone description total =>
    [("logger", .text "progress"), ("desc", .text description), ("total", .int total)]
  | pathIgnored path => [("path", .text path)]
  | checkStarted files checks => [("files", .nat files), ("checks", .list (checks.map .text))]
  | checkDone files diagnostics outcome =>
    [("files", .nat files), ("diagnostics", .nat diagnostics), ("status", .text outcome)]
  | fileFailed path error => [("path", .text path), ("error", .text error)]

/-- The event with all its keys. -/
def toValue (event : Event) : Value :=
  .record (("event", .text event.name) :: ("log_level", .text event.level.name) :: event.fields)

end Event

end SpecLint.Report
