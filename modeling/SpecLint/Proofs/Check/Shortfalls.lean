import SpecLint.Proofs.Check.MoreSpecs
import SpecLint.Proofs.Code.Position
import Mathlib.Algebra.GroupWithZero.Nat

/-!
# Which routines have too few scenarios

The scenarios of a public routine are counted under its relevant headers in all spec files of its
unit: those with its key or the key of an alias, or those of the unit where the unit needs no other
header. Without such a header there is nothing to compare. With one, the sum of the scenarios is
held against the branches of the routine.

## Main result

`shortfalls_of_file`: the check for scenarios reports the public routines with a relevant header and
with two branches or more that have fewer scenarios than branches, each once, in source order, with
the numbers compared; but it fails for a file with two stars in a row in its stem.
-/
namespace SpecLint.Check

open SpecLint.Code SpecLint.Spec
open SpecLint.Code.Concrete (construct token)

variable {context : Context} {routine : Routine}

/-! ### Scenarios of all spec files -/

/-- The headers of a routine in all its spec files, or those of its unit if it needs no header. -/
def relevantHeaders (context : Context) (subject : Subject) : List Node :=
  let options := context.settings.sufficientContexts
  subject.candidates.paths.flatMap fun path =>
    let tree := (context.project.specParsed path).root
    if skipsHeaders context options.toMethodOptions subject.unit then
      (unitHeaders tree subject.unit.name).filter hasBlock
    else findHeaders tree (headerTitles subject.routine.headerKey options.aliases)

theorem scenarios_eq (headers : List Node) :
    scenarios headers = if headers = [] then none else some (headers.map scenarioCount).sum := by
  simp only [scenarios, List.isEmpty_iff]
  rfl

theorem sumCounts_cons (count : Option Nat) (counts : List (Option Nat)) :
    sumCounts (count :: counts) =
      count.elim (sumCounts counts) fun number => some (number + (sumCounts counts).getD 0) := by
  cases count with
  | none => rfl
  | some number =>
    have added : sumCounts (some number :: counts) =
        some (number + (counts.filterMap id).foldr (· + ·) 0) := rfl
    rw [added, sumCounts]
    cases counts.filterMap id <;> rfl

theorem scenarios_append (front back : List Node) :
    scenarios (front ++ back) =
      (scenarios front).elim (scenarios back) fun number =>
        some (number + (scenarios back).getD 0) := by
  simp only [scenarios_eq, List.append_eq_nil_iff, List.map_append, List.sum_append_nat]
  by_cases first : front = []
  · simp [first]
  · by_cases second : back = []
    · simp [first, second]
    · simp [first, second]

/-- Counting file by file and adding up is counting over all files. -/
theorem sumCounts_scenarios {α : Type} (items : List α) (headers : α → List Node) :
    sumCounts (items.map fun item => scenarios (headers item)) =
      scenarios (items.flatMap headers) := by
  -- a file without headers adds nothing, and without any header there is no sum on either side
  induction items with
  | nil => rfl
  | cons item items ih =>
    rw [List.map_cons, sumCounts_cons, ih, List.flatMap_cons, scenarios_append]

theorem scenarioTotal_eq (subject : Subject) :
    scenarioTotal context
        (skipsHeaders context context.settings.sufficientContexts.toMethodOptions subject.unit)
        subject context.settings.sufficientContexts.aliases =
      scenarios (relevantHeaders context subject) := by
  rw [relevantHeaders, ← sumCounts_scenarios, scenarioTotal]
  refine congrArg sumCounts (List.map_congr_left fun path _ => ?_)
  cases skipsHeaders context context.settings.sufficientContexts.toMethodOptions subject.unit <;>
    rfl

/-! ### Findings about single routines -/

/-- A public routine with spec files and a relevant header, with fewer scenarios than branches and
at least two of these. -/
structure FallsShort (context : Context) (routine : Routine) (unit : CodeUnit)
    (candidates : Candidates) (comparison : Comparison) : Prop where
  owned : routine.unit = some unit
  isPublic : routine.isPublic context.settings.sufficientContexts.excluded = true
  located : context.project.located context.path (some unit.name) = .ok candidates
  applicable : candidates.paths ≠ []
  headed : relevantHeaders context ⟨routine, unit, candidates⟩ ≠ []
  branches : comparison.branches =
    Routine.branches context.settings.sufficientContexts.ignoreMemoization routine.site.node.body
  contexts : comparison.contexts =
    ((relevantHeaders context ⟨routine, unit, candidates⟩).map scenarioCount).sum
  branched : 2 ≤ comparison.branches
  short : comparison.contexts < comparison.branches

theorem sufficient_eq_false_iff {comparison : Comparison} :
    comparison.sufficient = false ↔
      2 ≤ comparison.branches ∧ comparison.contexts < comparison.branches := by
  simp only [Comparison.sufficient, Bool.or_eq_false_iff, decide_eq_false_iff_not]
  omega

/-- The branches of a routine against the scenarios of its relevant headers. -/
def comparisonOf (context : Context) (subject : Subject) : Comparison where
  branches := Routine.branches context.settings.sufficientContexts.ignoreMemoization
    subject.routine.site.node.body
  contexts := ((relevantHeaders context subject).map scenarioCount).sum

/-- The check objects to what does not suffice, if there is a relevant header. -/
theorem objection_eq (context : Context) (subject : Subject) :
    objection context
        (skipsHeaders context context.settings.sufficientContexts.toMethodOptions subject.unit)
        subject .sufficientContexts =
      if relevantHeaders context subject = [] then none
      else if (comparisonOf context subject).sufficient then none
      else some (shortfall context subject.routine (comparisonOf context subject)) := by
  simp only [objection, scenarioTotal_eq, scenarios_eq]
  split <;> rfl

/-- A routine that is looked at is public, and its unit has spec files. -/
theorem looked_of_subjectOf {patterns : List Pattern} {subject : Subject}
    (isSubject : subjectOf context patterns routine = .ok (some subject)) :
    subject.routine = routine ∧ routine.unit = some subject.unit ∧
      routine.isPublic patterns = true ∧
      context.project.located context.path (some subject.unit.name) = .ok subject.candidates ∧
      subject.candidates.paths ≠ [] := by
  refine ⟨routine_of_subjectOf isSubject, ?_⟩
  unfold subjectOf at isSubject
  split at isSubject
  · cases isSubject
  next unit owned =>
    split at isSubject
    next isPublic =>
      obtain ⟨found, located, taken⟩ := exists_of_map_eq_ok isSubject
      split at taken
      · cases taken
      next applicable =>
        obtain rfl := Option.some.inj taken
        rw [List.isEmpty_iff] at applicable
        exact ⟨owned, isPublic, located, applicable⟩
    · cases isSubject

/-- What is found about a routine that falls short, and about no other. -/
theorem finding_eq_some_iff {diagnostic : Diagnostic} :
    finding .sufficientContexts context routine = .ok (some diagnostic) ↔
      ∃ unit candidates comparison, FallsShort context routine unit candidates comparison ∧
        diagnostic = shortfall context routine comparison := by
  constructor
  · intro found
    rw [finding_eq] at found
    obtain ⟨subject, isSubject, objected⟩ := exists_of_map_eq_ok found
    obtain ⟨subject, rfl, objected⟩ := Option.bind_eq_some_iff.mp objected
    obtain ⟨rfl, owned, isPublic, located, applicable⟩ := looked_of_subjectOf isSubject
    have judged := (objection_eq context subject).symm.trans objected
    split at judged
    · cases judged
    next headed =>
      split at judged
      · cases judged
      next insufficient =>
        obtain ⟨branched, short⟩ := sufficient_eq_false_iff.mp (Bool.eq_false_iff.mpr insufficient)
        exact ⟨subject.unit, subject.candidates, comparisonOf context subject, ⟨owned, isPublic,
          located, applicable, headed, rfl, rfl, branched, short⟩, (Option.some.inj judged).symm⟩
  · rintro ⟨unit, candidates, comparison, falls, rfl⟩
    have same : comparison = comparisonOf context ⟨routine, unit, candidates⟩ := by
      obtain ⟨branches, contexts⟩ := comparison
      rw [comparisonOf, ← falls.branches, ← falls.contexts]
    have insufficient := sufficient_eq_false_iff.mpr ⟨falls.branched, falls.short⟩
    rw [finding_of_located context .sufficientContexts falls.owned falls.located falls.applicable]
    change Except.ok (if routine.isPublic context.settings.sufficientContexts.excluded = true then
      objection context (skipsHeaders context context.settings.sufficientContexts.toMethodOptions
        unit) ⟨routine, unit, candidates⟩ .sufficientContexts else none) = _
    rw [if_pos falls.isPublic]
    have judged := objection_eq context ⟨routine, unit, candidates⟩
    rw [if_neg falls.headed, ← same, insufficient] at judged
    exact congrArg Except.ok judged

/-! ### The file -/

/-- The search for the spec files of a public routine fails: its unit has a name, and the stem of
the file makes a wildcard that no directory can answer. -/
def Unsearched (context : Context) (routine : Routine) : Prop :=
  hasDoubledStar context.path.stem.toList = true ∧
    routine.isPublic context.settings.sufficientContexts.excluded = true ∧
      ∃ unit, routine.unit = some unit ∧ unit.name ≠ ""

theorem fails_finding_iff (checkable : Layout.isCheckable context.path = true) :
    Fails (finding .sufficientContexts context routine) ↔ Unsearched context routine := by
  obtain ⟨base, expected⟩ := Option.isSome_iff_exists.mp (Layout.expectedSpec?_isSome checkable)
  have searched (unit : String) : Fails (context.project.located context.path (some unit)) ↔
      unit ≠ "" ∧ hasDoubledStar context.path.stem.toList = true := by
    simp only [Fails, located_eq_error_iff context.project expected, exists_const_iff,
      and_iff_right_iff_imp]
    exact fun _ => ⟨.doubledStar⟩
  -- what is found about a routine never fails, only the search for its spec files does
  rw [finding_eq, fails_map]
  change Fails (subjectOf context context.settings.sufficientContexts.excluded routine) ↔ _
  unfold subjectOf Unsearched
  cases routine.unit with
  | none => simp
  | some unit =>
    cases routine.isPublic context.settings.sufficientContexts.excluded with
    | false => simp
    | true =>
      simp only [if_true, fails_map, searched, Option.some.injEq, exists_eq_left', true_and]
      exact and_comm

/-- The routines of a checkable file, in the order of a walk. -/
theorem routinesOf_of_checkable (checkable : Layout.isCheckable context.path = true) :
    routinesOf context = (context.root.walk.filter (·.node.isRoutine)).map
      (Routine.ofSite (some context.path)) := by
  rw [routinesOf, if_pos checkable]
  rfl

theorem reports_of_unsearched (checkable : Layout.isCheckable context.path = true)
    (unsearched : ∃ routine ∈ routinesOf context, Unsearched context routine) :
    reports .sufficientContexts context = .error .doubledStar := by
  obtain ⟨routine, member, unsearched⟩ := unsearched
  have failed : Fails ((routinesOf context).mapM (finding .sufficientContexts context)) :=
    fails_mapM.mpr ⟨routine, member, (fails_finding_iff checkable).mpr unsearched⟩
  rw [reports, eq_error_of_fails failed]
  rfl

/-- What is reported of a file whose routines have all been searched for. -/
theorem reports_of_searched (checkable : Layout.isCheckable context.path = true)
    (searched : ∀ routine ∈ routinesOf context, ¬Unsearched context routine) :
    ∃ verdict : Routine → Option Diagnostic,
      reports .sufficientContexts context = .ok ((routinesOf context).filterMap verdict) ∧
      ∀ routine ∈ routinesOf context,
        finding .sufficientContexts context routine = .ok (verdict routine) := by
  have each : ∀ routine ∈ routinesOf context, ∃ found,
      finding .sufficientContexts context routine = .ok found := fun routine member =>
    exists_ok_of_not_fails fun fails =>
      searched routine member ((fails_finding_iff checkable).mp fails)
  choose! verdict found using each
  refine ⟨verdict, ?_, found⟩
  rw [reports, mapM_eq_ok_map found]
  exact congrArg Except.ok List.filterMap_map

/-- The spec files of a routine that falls short are those of its unit. -/
theorem FallsShort.mem_paths_iff {unit : CodeUnit} {candidates : Candidates}
    {comparison : Comparison} (checkable : Layout.isCheckable context.path = true)
    (falls : FallsShort context routine unit candidates comparison) (path : Path) :
    path ∈ candidates.paths ↔ context.project.IsSpecOf context.path unit.name path := by
  obtain ⟨base, expected⟩ := Option.isSome_iff_exists.mp (Layout.expectedSpec?_isSome checkable)
  have fits : unit.name = "" ∨ hasDoubledStar context.path.stem.toList = false := by
    by_cases unnamed : unit.name = ""
    · exact .inl unnamed
    · right
      rw [← Bool.not_eq_true]
      intro doubled
      -- files have been found, so the search did not fail
      have failed := located_doubledStar context.project expected doubled unnamed
      rw [falls.located] at failed
      cases failed
  obtain ⟨located, found, -, -, members⟩ := exists_located context.project expected fits
  rw [falls.located, Except.ok.injEq] at found
  subst found
  exact members path

theorem details_shortfall {comparison : Comparison}
    (short : comparison.contexts < comparison.branches) :
    (shortfall context routine comparison).details =
      ([("branch_count", comparison.branches), ("context_count", comparison.contexts),
        ("deficit", comparison.branches - comparison.contexts)] : List (String × Int)) := by
  have deficit : (comparison.deficit : Int) = comparison.branches - comparison.contexts := by
    rw [Comparison.deficit]
    omega
  rw [← deficit, shortfall]
  unfold Diagnostic.atLocation
  split <;> rfl

/-- A checkable file is reported once for each public routine that has spec files and a relevant
header in them and that has fewer scenarios under its relevant headers than branches, and at least
two branches. The reports stand in the order of a walk, and each tells the two numbers and by how
much they differ. The check fails, though, if the stem of the file has two stars in a row and some
public routine belongs to a unit with a name. -/
theorem shortfalls_of_file (checkable : Layout.isCheckable context.path = true)
    (before : List CheckKind) :
    let routines := (context.root.walk.filter (·.node.isRoutine)).map
      (Routine.ofSite (some context.path))
    ((∃ routine ∈ routines, Unsearched context routine) →
      outcomeAfter before .sufficientContexts context = .error .doubledStar) ∧
    ((∀ routine ∈ routines, ¬Unsearched context routine) →
      ∃ verdict : Routine → Option Diagnostic,
        outcomeAfter before .sufficientContexts context = .ok (routines.filterMap verdict) ∧
        ∀ routine ∈ routines, ∀ diagnostic, verdict routine = some diagnostic ↔
          ∃ unit candidates comparison, FallsShort context routine unit candidates comparison ∧
            diagnostic = shortfall context routine comparison) ∧
    ∀ routine unit candidates comparison,
      FallsShort context routine unit candidates comparison →
        (shortfall context routine comparison).details =
          ([("branch_count", comparison.branches), ("context_count", comparison.contexts),
            ("deficit", comparison.branches - comparison.contexts)] : List (String × Int)) ∧
        1 ≤ comparison.branches - comparison.contexts ∧
        ∀ path, path ∈ candidates.paths ↔
          context.project.IsSpecOf context.path unit.name path := by
  intro routines
  have walked : routinesOf context = routines := routinesOf_of_checkable checkable
  rw [outcomeAfter_eq before (by decide), ← walked]
  refine ⟨reports_of_unsearched checkable, fun searched => ?_, ?_⟩
  · obtain ⟨verdict, reported, found⟩ := reports_of_searched checkable searched
    refine ⟨verdict, reported, fun routine member diagnostic => ?_⟩
    rw [← finding_eq_some_iff, found routine member, Except.ok.injEq]
  · intro routine unit candidates comparison falls
    have short := falls.short
    exact ⟨details_shortfall short, by omega, falls.mem_paths_iff checkable⟩

/-! ### A routine with two branches

Its spec has a header for it with no scenario. -/

def branchingMethod : Node :=
  .methodDef "call" [.conditional .ternary [.arm (some (.identifier "id" none)) [] none] (some [])
    false none] (some ⟨2, 2, 4, 5⟩)

def branchingClass : Node := .classDef "UserCreator" none [branchingMethod] (some ⟨1, 0, 5, 3⟩)

def branchingProgram : Node := .program [branchingClass] (some ⟨1, 0, 6, 0⟩)

def branchingContext (stem : String) : Context where
  project :=
    { disk := ⟨[], [(["app"], .directory), (["app", "services"], .directory),
        (["app", "services", stem ++ ".rb"], .file ByteArray.empty), (["spec"], .directory),
        (["spec", "services"], .directory),
        (["spec", "services", stem ++ "_spec.rb"], .file creatorSpec.toUTF8)]⟩
      grammar := fun _ => creatorSpecTree }
  parsed := ⟨⟨"", ["app", "services", stem ++ ".rb"]⟩, "", branchingProgram, 0, 0⟩
  settings := { sufficientContexts := { excluded := [] } }

def branchingSpec (stem : String) : Path := ⟨"", ["spec", "services", stem ++ "_spec.rb"]⟩

def branchingSite : Site := ⟨branchingMethod, [(branchingClass, 0), (branchingProgram, 0)]⟩

def branchingUnit : CodeUnit := .ofDeclaration ⟨branchingClass, [(branchingProgram, 0)]⟩

theorem branchingSite_mem_walk (stem : String) :
    branchingSite ∈ (branchingContext stem).root.walk :=
  Site.mem_walk_root.mpr ⟨rfl, rfl, rfl⟩

/-- For a file with two stars in its name, the check fails in place of reporting the routine. -/
theorem doubled_star_hides_shortfall :
    let context := branchingContext "a**b"
    let routine := Routine.ofSite (some context.path) branchingSite
    Layout.isCheckable context.path = true ∧ branchingSite ∈ context.root.walk ∧
      routine.isPublic context.settings.sufficientContexts.excluded = true ∧
      routine.unit = some branchingUnit ∧
      context.project.IsSpecOf context.path branchingUnit.name (branchingSpec "a**b") ∧
      (findHeaders (context.project.specParsed (branchingSpec "a**b")).root ["#call"]).map
        scenarioCount = [0] ∧
      Routine.branches true routine.site.node.body = 2 ∧
      outcomeAfter [] .sufficientContexts context = .error .doubledStar := by
  intro context routine
  have checkable : Layout.isCheckable context.path = true := by decide +kernel
  have walked := branchingSite_mem_walk "a**b"
  have isPublic : routine.isPublic context.settings.sufficientContexts.excluded = true := by
    decide +kernel
  have expected : Layout.expectedSpec? context.path = some (branchingSpec "a**b") := by
    decide +kernel
  have unsearched : Unsearched context routine :=
    ⟨by decide, isPublic, branchingUnit, rfl, by decide +kernel⟩
  refine ⟨checkable, walked, isPublic, rfl, ⟨_, expected, .inl ⟨rfl, by decide +kernel⟩⟩,
    by decide +kernel, by decide +kernel, ?_⟩
  rw [outcomeAfter_eq [] (by decide)]
  refine reports_of_unsearched checkable ⟨routine, ?_, unsearched⟩
  rw [routinesOf_of_checkable checkable]
  exact List.mem_map.mpr ⟨branchingSite, List.mem_filter.mpr ⟨walked, rfl⟩, rfl⟩

/-- The file under another name is searched, and its routine is reported. -/
theorem shortfalls_of_file_branching :
    let context := branchingContext "user_creator"
    let routines := (context.root.walk.filter (·.node.isRoutine)).map
      (Routine.ofSite (some context.path))
    let routine := Routine.ofSite (some context.path) branchingSite
    Layout.isCheckable context.path = true ∧ (∀ routine ∈ routines, ¬Unsearched context routine) ∧
      FallsShort context routine branchingUnit
        ⟨some (branchingSpec "user_creator"), [branchingSpec "user_creator"]⟩ ⟨2, 0⟩ ∧
      ∃ verdict : Routine → Option Diagnostic,
        outcomeAfter [] .sufficientContexts context = .ok (routines.filterMap verdict) ∧
        verdict routine = some (shortfall context routine ⟨2, 0⟩) ∧
        (shortfall context routine ⟨2, 0⟩).details =
          [("branch_count", 2), ("context_count", 0), ("deficit", 2)] := by
  intro context routines routine
  have checkable : Layout.isCheckable context.path = true := by decide +kernel
  have searched : ∀ routine ∈ routines, ¬Unsearched context routine :=
    fun _ _ unsearched => absurd unsearched.1 (by decide)
  have falls : FallsShort context routine branchingUnit
      ⟨some (branchingSpec "user_creator"), [branchingSpec "user_creator"]⟩ ⟨2, 0⟩ := by
    refine ⟨rfl, by decide +kernel, ?_, by simp, ?_, by decide +kernel, by decide +kernel,
      by decide, by decide⟩
    · apply eq_ok_of_toOption
      decide +kernel
    · rw [ne_eq, ← List.isEmpty_iff]
      decide +kernel
  have member : routine ∈ routines := List.mem_map.mpr
    ⟨branchingSite, List.mem_filter.mpr ⟨branchingSite_mem_walk "user_creator", rfl⟩, rfl⟩
  obtain ⟨-, reported, details⟩ := shortfalls_of_file checkable []
  obtain ⟨verdict, outcome, judged⟩ := reported searched
  exact ⟨checkable, searched, falls, verdict, outcome,
    (judged routine member _).mpr ⟨_, _, _, falls, rfl⟩, (details routine _ _ _ falls).1⟩

end SpecLint.Check
