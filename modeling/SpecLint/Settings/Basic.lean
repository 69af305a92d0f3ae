import SpecLint.Routine.Exclusion
import SpecLint.Spec.HeaderKey
import SpecLint.Report.Event

/-!
# Settings

Every check can be switched off. The method checks take path globs whose units need no header per
method, aliases for header keys, and patterns for names that are never checked. Log records go to
any number of outputs, each with a format and, if it likes, a level of its own.
-/
namespace SpecLint

open SpecLint.Data SpecLint.Report

inductive LogFormat where
  | json
  | console
  deriving DecidableEq, Repr

def LogFormat.name : LogFormat → String
  | json => "json"
  | console => "console"

inductive Destination where
  | stderr
  | stdout
  | file (path : String)
  deriving DecidableEq, Repr

namespace Destination

def name : Destination → String
  | stderr => "stderr"
  | stdout => "stdout"
  | file path => path

def isConsole : Destination → Bool
  | stderr | stdout => true
  | file _ => false

end Destination

/-- How the settings write a level. -/
def capitalName : Level → String
  | .debug => "DEBUG"
  | .info => "INFO"
  | .warning => "WARNING"
  | .error => "ERROR"
  | .critical => "CRITICAL"

structure OutputSettings where
  format : LogFormat := .console
  destination : Destination := .stderr
  /-- Absent where the level of the logging settings holds. -/
  level : Option Level := none
  deriving DecidableEq, Repr

structure LoggingSettings where
  level : Level := .warning
  outputs : List OutputSettings := [{}]
  deriving DecidableEq, Repr

/-- Patterns for callback-style names. -/
def callbackPatterns : List String :=
  ["^before_", "^after_", "^around_", "^validate_", "^autosave_"]

structure MethodOptions where
  enabled : Bool := true
  /-- Globs of files whose units need no header for their only public routine. -/
  skipFor : List String := []
  aliases : AliasTable := .empty
  excluded : List Pattern := (Exclusion.read callbackPatterns).1

structure ContextOptions extends MethodOptions where
  ignoreMemoization : Bool := true

structure Settings where
  logging : LoggingSettings := {}
  fileHasSpec : Bool := true
  publicMethodHasSpec : MethodOptions := {}
  sufficientContexts : ContextOptions := {}

namespace OutputSettings

def toValue (output : OutputSettings) : Value :=
  .record [("format", .text output.format.name), ("destination", .text output.destination.name),
    ("level", .optional (fun level => .text (capitalName level)) output.level)]

end OutputSettings

namespace LoggingSettings

def toValue (logging : LoggingSettings) : Value :=
  .record [("level", .text (capitalName logging.level)),
    ("outputs", .list (logging.outputs.map OutputSettings.toValue))]

end LoggingSettings

namespace MethodOptions

def fields (options : MethodOptions) : List (String × Value) :=
  [("enabled", .bool options.enabled),
    ("skip_method_describe_for", .list (options.skipFor.map .text)),
    ("describe_aliases",
      .record (options.aliases.entries.map fun (key, aliases) => (key, .list (aliases.map .text)))),
    ("excluded_patterns", .list (options.excluded.map fun pattern => .text pattern.written))]

def toValue (options : MethodOptions) : Value := .record options.fields

end MethodOptions

namespace ContextOptions

def toValue (options : ContextOptions) : Value :=
  .record (options.fields ++ [("ignore_memoization", .bool options.ignoreMemoization)])

end ContextOptions

namespace Settings

/-- All settings by section and option. -/
def toValue (settings : Settings) : Value :=
  .record [("logging", settings.logging.toValue),
    ("file_has_spec", .record [("enabled", .bool settings.fileHasSpec)]),
    ("public_method_has_spec", settings.publicMethodHasSpec.toValue),
    ("sufficient_contexts", settings.sufficientContexts.toValue)]

end Settings

end SpecLint
