import SpecLint.Check.Context
import SpecLint.Check.Kind
import SpecLint.Report.Count
import SpecLint.Routine.Visibility
import SpecLint.Spec.Comparison

/-!
# The three checks

A file is expected to have a spec for one of its units; a public routine is expected to be named in
the specs of its unit; and a routine with several branches is expected to have as many scenarios.
The latter two look only at routines with at least one spec file.
-/
namespace SpecLint.Check

open SpecLint.Code SpecLint.Spec SpecLint.Report

/-- The units of a file: all that it declares, or else the one its name suggests. -/
def unitNames (context : Context) : List String :=
  match CodeUnit.declarations context.root with
  | [] => (CodeUnit.inferredName? context.path).toList.filter (· ≠ "")
  | declarations => declarations.map fun declaration => (CodeUnit.ofDeclaration declaration).name

/-- Report a file none of whose units has a spec file. -/
def fileHasSpec (context : Context) : Study (List Diagnostic) := do
  if !Layout.isCheckable context.path then return []
  let located ← (unitNames context).mapM (candidatesFor context)
  if located.any fun candidates => !candidates.paths.isEmpty then return []
  match located.head?.bind (·.base) with
  | none => return []
  | some base =>
    return [Diagnostic.atLocation context.path.toString CheckKind.fileHasSpec.id "missing_spec_file"
      ("Missing spec file. Expected " ++ Layout.projectRelative base (some context.path))
      context.parsed.root.loc []]

/-- A public routine with its unit and the spec files of that. -/
structure Subject where
  routine : Routine
  unit : CodeUnit
  candidates : Candidates

/-- A public routine to check, if there are spec files for its unit. -/
def subject? (context : Context) (patterns : List Pattern) (routine : Routine) :
    Study (Option Subject) := do
  match routine.unit with
  | none => return none
  | some unit =>
    if !routine.isPublic patterns then return none
    let candidates ← candidatesFor context unit.name
    if candidates.paths.isEmpty then return none else return some ⟨routine, unit, candidates⟩

/-- Whether a routine needs no header of its own: the only public one of a unit under one of the
globs. -/
def isRelaxed (context : Context) (options : MethodOptions) (unit : CodeUnit) : Study Bool := do
  if !Glob.coversPath options.skipFor context.path then return false
  let (count, events) := unit.countPublic options.excluded
  Study.report events
  return count = 1

/-- Run a rule over all public routines with spec files. -/
def checkRoutines (context : Context) (options : MethodOptions)
    (rule : Subject → Study (Option Diagnostic)) : Study (List Diagnostic) := do
  if !Layout.isCheckable context.path then return []
  let found ← (Routine.collect context.root (some context.path)).mapM fun routine => do
    match ← subject? context options.excluded routine with
    | none => return none
    | some subject => rule subject
  return found.filterMap (fun diagnostic => diagnostic)

/-- Whether a routine is documented: by examples of its unit if that is enough, else by name. -/
def isDocumented (context : Context) (options : MethodOptions) (subject : Subject) :
    Study Bool := do
  if ← isRelaxed context options subject.unit then
    Study.ofCache (hasExamplesForUnit context.project subject.unit.name subject.candidates.paths)
  else
    Study.ofCache (covers context.project subject.candidates.paths subject.routine.headerKey
      options.aliases)

/-- The finding about a routine that is not documented, with the headers that would do. -/
def omission (context : Context) (routine : Routine) (headers : List String) (spec : Path) :
    Diagnostic :=
  Diagnostic.atLocation context.path.toString CheckKind.publicMethodHasSpec.id
    "missing_method_spec"
    ("Missing spec for public method `" ++ routine.name ++ "`. Expected " ++
      " or ".intercalate headers ++ " in " ++ Layout.projectRelative spec (some context.path))
    routine.loc []

/-- Report a routine that no spec file documents. -/
def documentationRule (context : Context) (options : MethodOptions) (subject : Subject) :
    Study (Option Diagnostic) := do
  if ← isDocumented context options subject then return none
  let (headers, events) := expectedHeaders subject.routine.headerKey options.aliases
  Study.report events
  return subject.candidates.primary.map (omission context subject.routine headers)

def publicMethodHasSpec (context : Context) : Study (List Diagnostic) :=
  let options := context.settings.publicMethodHasSpec
  checkRoutines context options (documentationRule context options)

/-- The finding about a routine with too few scenarios. -/
def shortfall (context : Context) (routine : Routine) (comparison : Comparison) : Diagnostic :=
  Diagnostic.atLocation context.path.toString CheckKind.sufficientContexts.id
    "insufficient_contexts"
    ("Method `" ++ routine.name ++ "` has " ++
      countedNat comparison.branches "branch" (some "branches") ++ " but only " ++
      countedNat comparison.contexts "context" none ++ " in spec. Add " ++
      countedNat comparison.deficit "more context" none ++ " to cover all branches.")
    routine.loc
    [("branch_count", comparison.branches), ("context_count", comparison.contexts),
      ("deficit", comparison.deficit)]

/-- Report a routine with more branches than scenarios. -/
def scenarioRule (context : Context) (options : ContextOptions) (subject : Subject) :
    Study (Option Diagnostic) := do
  let relaxed ← isRelaxed context options.toMethodOptions subject.unit
  let branches := Routine.branches options.ignoreMemoization subject.routine.site.node.body
  let comparison ← Study.ofCache (compare context.project branches subject.candidates.paths
    subject.routine.headerKey options.aliases (if relaxed then some subject.unit.name else none))
  return comparison.bind fun comparison =>
    if comparison.sufficient then none else some (shortfall context subject.routine comparison)

def sufficientContexts (context : Context) : Study (List Diagnostic) :=
  let options := context.settings.sufficientContexts
  checkRoutines context options.toMethodOptions (scenarioRule context options)

/-- The rule of a check. -/
def CheckKind.rule : CheckKind → Context → Study (List Diagnostic)
  | fileHasSpec => Check.fileHasSpec
  | publicMethodHasSpec => Check.publicMethodHasSpec
  | sufficientContexts => Check.sufficientContexts

end SpecLint.Check
