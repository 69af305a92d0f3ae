import SpecLint.Proofs.Check.Relaxation
import SpecLint.Proofs.Code.Position

/-!
# Files without a spec

A file is reported as having no spec if none of its units has a spec file. Its units are the classes
and modules it declares, or else the one its name suggests. A routine outside of every class and
module belongs to the unit that the name of the file suggests, whether or not the file declares
others. So there may be a unit of routines that is no unit of the file, and a spec file for it.

## Main result

`reports_of_missing_spec`: of a file without a spec the method checks report what they find about
such stray routines, and nothing else.
-/
namespace SpecLint.Check

open SpecLint.Code SpecLint.Spec
open SpecLint.Code.Concrete (construct token)

variable {context : Context} {kind : CheckKind}

/-- A routine outside of every class and module, in a file that declares some, none of them under
the name that the file suggests. -/
def isStray (context : Context) (routine : Routine) : Bool :=
  (CodeUnit.enclosing? routine.site).isNone && !(CodeUnit.declarations context.root).isEmpty &&
    (CodeUnit.inferredName? context.path).any fun name => !(unitNames context).contains name

/-! ### Units without spec files -/

/-- A file is reported only if it has units and none of them has a spec file. -/
theorem located_of_missingSpec {found : List Diagnostic} (missing : missingSpec context = .ok found)
    (reported : found ≠ []) :
    unitNames context ≠ [] ∧ ∀ name ∈ unitNames context, ∃ candidates,
      context.project.located context.path (some name) = .ok candidates ∧
        candidates.paths.isEmpty = true := by
  unfold missingSpec at missing
  split at missing
  next =>
    obtain ⟨located, looked, rfl⟩ := exists_of_map_eq_ok missing
    split at reported
    next => exact absurd rfl reported
    next none =>
      constructor
      · intro empty
        rw [empty] at looked
        cases looked
        exact reported rfl
      · intro name member
        obtain ⟨candidates, isLocated, same⟩ := exists_of_mem_mapM looked member
        refine ⟨candidates, same, ?_⟩
        simp only [List.any_eq_true, Bool.not_eq_true', not_exists, not_and,
          Bool.not_eq_false] at none
        exact none candidates isLocated
  next =>
    cases missing
    exact absurd rfl reported

/-- There is no finding about a routine whose unit is a unit of a file without a spec. -/
theorem finding_of_missingSpec {routine : Routine} {unit : CodeUnit}
    (missing : ∀ name ∈ unitNames context, ∃ candidates,
      context.project.located context.path (some name) = .ok candidates ∧
        candidates.paths.isEmpty = true)
    (owned : routine.unit = some unit) (member : unit.name ∈ unitNames context) :
    finding kind context routine = .ok none := by
  obtain ⟨candidates, located, empty⟩ := missing unit.name member
  have none : subjectOf context (kind.options context.settings).excluded routine = .ok none := by
    simp only [subjectOf, owned, located, Except.map, empty, if_true, ite_self]
  rw [finding_eq, none]
  rfl

/-! ### Routines of other units -/

/-- Unless a routine is stray, its unit is a unit of the file. -/
theorem mem_unitNames {routine : Routine} {unit : CodeUnit} (member : routine ∈ routinesOf context)
    (named : unitNames context ≠ []) (owned : routine.unit = some unit)
    (resident : isStray context routine = false) : unit.name ∈ unitNames context := by
  unfold routinesOf at member
  split at member
  case isFalse => cases member
  obtain ⟨walked, -, same⟩ := Routine.mem_collect member
  rw [owned] at same
  cases enclosed : CodeUnit.enclosing? routine.site with
  | some declaration =>
    rw [CodeUnit.owning?_of_enclosing _ enclosed, Option.some.injEq] at same
    have inside : declaration ∈ CodeUnit.declarations context.root := by
      have encloses := List.mem_of_find?_eq_some enclosed
      have isUnit : declaration.node.isUnit = true :=
        @List.find?_some _ (fun site : Site => site.node.isUnit) _ _ enclosed
      exact List.mem_filter.mpr ⟨Site.mem_walk_of_mem_ancestors walked encloses, isUnit⟩
    unfold unitNames
    split
    next empty => simp [empty] at inside
    next => exact List.mem_map.mpr ⟨declaration, inside, by rw [same]⟩
  | none =>
    rw [CodeUnit.owning?, enclosed] at same
    obtain ⟨name, inferred, rfl⟩ := Option.map_eq_some_iff.mp same.symm
    rw [Option.bind_some] at inferred
    -- the file suggests the unit, and it declares none or one of that name
    simp only [isStray, enclosed, inferred, Option.isNone_none, Bool.true_and, Option.any_some,
      Bool.and_eq_false_iff, Bool.not_eq_false', List.isEmpty_iff,
      List.contains_iff_mem] at resident
    rcases resident with nothing | declared
    · have suggested : unitNames context = [name].filter (· ≠ "") := by
        rw [unitNames, nothing, inferred]
        rfl
      rw [suggested] at named ⊢
      by_cases blank : name = ""
      · simp [blank] at named
      · simp [blank]
    · exact declared

/-- A file is reported as having no spec when its units have no spec files. Then the method checks
report what they find about its stray routines, and nothing else: nothing at all, if the file
declares no class or module, if all its routines stand in one, or if one has the name that the file
suggests. -/
theorem reports_of_missing_spec {before : List CheckKind} {found : List Diagnostic}
    (missing : outcomeAfter before .fileHasSpec context = .ok found) (reported : found ≠ [])
    (perMethod : kind ≠ .fileHasSpec) (later : List CheckKind) :
    outcomeAfter later kind context =
      (((routinesOf context).filter (isStray context)).mapM (finding kind context)).map
        (fun found => found.filterMap fun diagnostic => diagnostic) ∧
    (CodeUnit.declarations context.root = [] ∨
        (∀ routine ∈ routinesOf context, CodeUnit.enclosing? routine.site ≠ none) ∨
        (∃ name ∈ unitNames context, CodeUnit.inferredName? context.path = some name) →
      outcomeAfter later kind context = .ok []) := by
  rw [outcomeAfter_fileHasSpec] at missing
  obtain ⟨named, unlocated⟩ := located_of_missingSpec missing reported
  have silent : ∀ routine ∈ routinesOf context, isStray context routine = false →
      finding kind context routine = .ok none := by
    intro routine member resident
    cases owned : routine.unit with
    | none =>
      have none :
          subjectOf context (kind.options context.settings).excluded routine = .ok none := by
        rw [subjectOf, owned]
      rw [finding_eq, none]
      rfl
    | some unit =>
      exact finding_of_missingSpec unlocated owned (mem_unitNames member named owned resident)
  have outcome : outcomeAfter later kind context =
      (((routinesOf context).filter (isStray context)).mapM (finding kind context)).map
        (fun found => found.filterMap fun diagnostic => diagnostic) := by
    rw [outcomeAfter_eq later perMethod context]
    exact mapM_filter silent
  refine ⟨outcome, fun noStrays => ?_⟩
  have none : (routinesOf context).filter (isStray context) = [] := by
    rw [List.filter_eq_nil_iff]
    intro routine member stray
    simp only [isStray, Bool.and_eq_true, Option.isNone_iff_eq_none, Bool.not_eq_true',
      List.isEmpty_eq_false_iff, Option.any_eq_true] at stray
    obtain ⟨⟨outside, declares⟩, name, suggested, undeclared⟩ := stray
    rcases noStrays with nothing | enclosed | ⟨other, declared, inferred⟩
    · exact declares nothing
    · exact enclosed routine member outside
    · rw [suggested, Option.some.injEq] at inferred
      simp [inferred, declared] at undeclared
  rw [outcome, none]
  rfl

/-! ### A routine beside a class

The file `user.rb` declares `Foo`, for which there is no spec, and defines a routine beside it. For
`User` there is a spec file. -/

def userPath : Path := ⟨"", ["app", "models", "user.rb"]⟩

def userExtraSpecPath : Path := ⟨"", ["spec", "models", "user_extra_spec.rb"]⟩

def strayMethod : Node := .methodDef "bar" [] (some ⟨4, 0, 5, 3⟩)

def strayProgram : Node :=
  .program [.classDef "Foo" none [] (some ⟨1, 0, 2, 3⟩), strayMethod] (some ⟨1, 0, 6, 0⟩)

def userExtraSpec : String := "RSpec.describe User do\nend\n"

def userExtraSpecTree : Concrete :=
  construct "program" 0 27 none
    [construct "call" 0 26 none
      [construct "constant" 0 5 (some "receiver") [],
        .node "." false false 5 6 (some "operator") [],
        construct "identifier" 6 14 (some "method") [],
        construct "argument_list" 15 19 (some "arguments") [construct "constant" 15 19 none []],
        construct "do_block" 20 26 (some "block") [token "do" 20 22, token "end" 23 26]]]

def strayContext : Context where
  project :=
    { disk := ⟨[], [(["app"], .directory), (["app", "models"], .directory),
        (["app", "models", "user.rb"], .file ByteArray.empty), (["spec"], .directory),
        (["spec", "models"], .directory),
        (["spec", "models", "user_extra_spec.rb"], .file userExtraSpec.toUTF8)]⟩
      grammar := fun _ => userExtraSpecTree }
  parsed := ⟨userPath, "", strayProgram, 0, 0⟩
  settings := { publicMethodHasSpec := { excluded := [] } }

def strayRoutine : Routine := .ofSite (some userPath) ⟨strayMethod, [(strayProgram, 1)]⟩

def strayMissing : Diagnostic :=
  Diagnostic.atLocation userPath.toString CheckKind.fileHasSpec.id "missing_spec_file"
    "Missing spec file. Expected spec/models/user_spec.rb" strayProgram.loc []

def strayFinding : Diagnostic :=
  omission strayContext strayRoutine ["describe '#bar'", "describe '.bar'"] userExtraSpecPath

/-- A file without a spec has a routine without a header. -/
theorem missing_spec_and_finding :
    (outcomeAfter [] .fileHasSpec strayContext).toOption = some [strayMissing] ∧
      (outcomeAfter [.fileHasSpec] .publicMethodHasSpec strayContext).toOption =
        some [strayFinding] := by
  constructor <;> decide +kernel

/-- All that is reported beside the missing spec is about the one stray routine. -/
theorem reports_of_missing_spec_stray :
    outcomeAfter [] .fileHasSpec strayContext = .ok [strayMissing] ∧
      ((routinesOf strayContext).filter (isStray strayContext)).length = 1 ∧
      outcomeAfter [.fileHasSpec] .publicMethodHasSpec strayContext =
        (((routinesOf strayContext).filter (isStray strayContext)).mapM
          (finding .publicMethodHasSpec strayContext)).map
            fun found => found.filterMap fun diagnostic => diagnostic := by
  have missing : outcomeAfter [] .fileHasSpec strayContext = .ok [strayMissing] := by
    apply eq_ok_of_toOption
    decide +kernel
  have single : ((routinesOf strayContext).filter (isStray strayContext)).length = 1 := by
    decide +kernel
  exact ⟨missing, single, (reports_of_missing_spec missing (by simp) (by decide) _).1⟩

end SpecLint.Check
