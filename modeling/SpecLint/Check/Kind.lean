import SpecLint.Settings.Basic

/-!
# Kinds of checks

Each check has an id, under which findings are reported and settings may name it, and a section of
the settings that holds its options.
-/
namespace SpecLint.Check

inductive CheckKind where
  | fileHasSpec
  | publicMethodHasSpec
  | sufficientContexts
  deriving DecidableEq, Repr

namespace CheckKind

def id : CheckKind → String
  | fileHasSpec => "RSpecParity/FileHasSpec"
  | publicMethodHasSpec => "RSpecParity/PublicMethodHasSpec"
  | sufficientContexts => "RSpecParity/SufficientContexts"

def title : CheckKind → String
  | fileHasSpec => "File has spec"
  | publicMethodHasSpec => "Public method has spec"
  | sufficientContexts => "Sufficient contexts"

/-- The section of the settings that holds the options of the check. -/
def «section» : CheckKind → String
  | fileHasSpec => "file_has_spec"
  | publicMethodHasSpec => "public_method_has_spec"
  | sufficientContexts => "sufficient_contexts"

def description : CheckKind → String
  | fileHasSpec => "Each file under app/<covered dir>/ has a spec/<covered dir>/ counterpart."
  | publicMethodHasSpec => "Each public method is named by a describe, context or example."
  | sufficientContexts => "A method with N branches has at least N contexts in its spec."

def isEnabled (settings : Settings) : CheckKind → Bool
  | fileHasSpec => settings.fileHasSpec
  | publicMethodHasSpec => settings.publicMethodHasSpec.enabled
  | sufficientContexts => settings.sufficientContexts.enabled

/-- All checks in the order in which they run. -/
def all : List CheckKind := [fileHasSpec, publicMethodHasSpec, sufficientContexts]

def ofSection? (name : String) : Option CheckKind := all.find? (·.section == name)

theorem mem_all (kind : CheckKind) : kind ∈ all := by cases kind <;> decide

theorem ofSection?_section (kind : CheckKind) : ofSection? kind.section = some kind := by
  cases kind <;> decide

end CheckKind

end SpecLint.Check
