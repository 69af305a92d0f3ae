import Mathlib.Data.List.Forall2
import SpecLint.Proofs.Check.Relaxation

/-!
# Ignoring memoization

The guards of memoized values may be left out of the branches of a routine. What stands inside of
them is counted either way, so a body never has more branches without its guards, and the scenarios
are no matter of the guards. A routine that falls short without them falls short with them, and by
no less.

## Main result

`reports_of_ignored_guards`: the findings that are left when memoization is ignored are, in the same
order, among those that are made when it is not.
-/
namespace SpecLint.Routine

open SpecLint.Code

/-- Ignoring memoization takes nothing away but what the guards contribute. -/
theorem branches_true_le (body : List Node) : branches true body ≤ branches false body := by
  have counts : ((body.flatMap ownNodes).map (counted true)).sum ≤
      ((body.flatMap ownNodes).map (counted false)).sum := by
    induction body.flatMap ownNodes with
    | nil => exact Nat.le_refl _
    | cons node nodes ih =>
      rw [List.map_cons, List.map_cons, List.sum_cons, List.sum_cons]
      exact Nat.add_le_add (counted_le node) ih
  exact Nat.max_le.mpr ⟨Nat.le_max_left .., Nat.le_trans counts (Nat.le_max_right ..)⟩

end SpecLint.Routine

namespace SpecLint.Spec.Comparison

/-- With more branches there is no less to be missed. -/
theorem sufficient_of_fewer {few many contexts : Nat} (fewer : few ≤ many)
    (short : sufficient ⟨few, contexts⟩ = false) : sufficient ⟨many, contexts⟩ = false := by
  simp only [sufficient, Bool.or_eq_false_iff, decide_eq_false_iff_not] at short ⊢
  omega

end SpecLint.Spec.Comparison

namespace SpecLint.Check

open SpecLint.Code SpecLint.Spec

/-- The same file under settings that ignore memoization or do not. -/
def Context.ignoring (context : Context) (ignored : Bool) : Context :=
  { context with settings.sufficientContexts.ignoreMemoization := ignored }

/-- Two findings about a routine, the first without the guards in its body and the second with them:
the second tells of as many scenarios, of no fewer branches and of no smaller gap. -/
def Outdone (context : Context) (routine : Routine) (less more : Diagnostic) : Prop :=
  ∃ few many : Comparison,
    less = shortfall context routine few ∧ more = shortfall context routine many ∧
      few.branches = Routine.branches true routine.site.node.body ∧
      many.branches = Routine.branches false routine.site.node.body ∧
      few.contexts = many.contexts ∧ few.branches ≤ many.branches ∧ few.deficit ≤ many.deficit

variable {context : Context}

/-! ### One routine -/

/-- A finding tells of the comparison that it was made of. -/
theorem shortfall_injective {routine : Routine} {few many : Comparison}
    (same : shortfall context routine few = shortfall context routine many) : few = many := by
  have details (comparison : Comparison) : (shortfall context routine comparison).details =
      [("branch_count", (comparison.branches : Int)),
        ("context_count", (comparison.contexts : Int)),
        ("deficit", (comparison.deficit : Int))] := by
    unfold shortfall Diagnostic.atLocation
    split <;> rfl
  have told := congrArg Diagnostic.details same
  rw [details, details] at told
  obtain ⟨branches, contexts⟩ := few
  obtain ⟨others, further⟩ := many
  simp only [List.cons.injEq, Prod.mk.injEq, true_and, Int.natCast_inj] at told
  rw [told.1, told.2.1]

/-- What there is to say against a routine without its guards is said with them, too. -/
theorem objection_ignoring {skips : Bool} {subject : Subject} {less : Diagnostic}
    (short : objection (context.ignoring true) skips subject .sufficientContexts = some less) :
    ∃ more, objection (context.ignoring false) skips subject .sufficientContexts = some more ∧
      Outdone context subject.routine less more := by
  obtain ⟨contexts, counted, judged⟩ := Option.bind_eq_some_iff.mp short
  have fewer := Routine.branches_true_le subject.routine.site.node.body
  have insufficient : Comparison.sufficient
      ⟨Routine.branches true subject.routine.site.node.body, contexts⟩ = false := by
    cases enough : Comparison.sufficient
        ⟨Routine.branches true subject.routine.site.node.body, contexts⟩ with
    | false => rfl
    | true => simp [Context.ignoring, enough] at judged
  have still := Comparison.sufficient_of_fewer fewer insufficient
  simp only [Context.ignoring, insufficient, Bool.false_eq_true, if_false, Option.some.injEq]
    at judged
  refine ⟨shortfall context subject.routine
      ⟨Routine.branches false subject.routine.site.node.body, contexts⟩, ?_,
    ⟨Routine.branches true subject.routine.site.node.body, contexts⟩,
    ⟨Routine.branches false subject.routine.site.node.body, contexts⟩, judged.symm, rfl, rfl, rfl,
    rfl, fewer, Nat.sub_le_sub_right fewer contexts⟩
  -- the scenarios are counted without a look at the guards
  refine Option.bind_eq_some_iff.mpr ⟨contexts, counted, ?_⟩
  simp only [Context.ignoring, still, Bool.false_eq_true, if_false]
  rfl

theorem finding_ignoring {routine : Routine} {found : Option Diagnostic}
    (judged : finding .sufficientContexts (context.ignoring true) routine = .ok found) :
    ∃ more, finding .sufficientContexts (context.ignoring false) routine = .ok more ∧
      ∀ less, found = some less → ∃ outdoing, more = some outdoing ∧
        Outdone context routine less outdoing := by
  rw [finding_eq] at judged
  obtain ⟨subject, isSubject, same⟩ := exists_of_map_eq_ok judged
  rw [finding_eq]
  have isSubject' : subjectOf (context.ignoring false)
      (CheckKind.sufficientContexts.options (context.ignoring false).settings).excluded routine =
        .ok subject := isSubject
  rw [isSubject']
  refine ⟨_, rfl, fun less isFound => ?_⟩
  rw [isFound] at same
  obtain ⟨subject, rfl, short⟩ := Option.bind_eq_some_iff.mp same
  obtain ⟨more, objected, outdone⟩ := objection_ignoring short
  refine ⟨more, objected, ?_⟩
  rwa [routine_of_subjectOf isSubject] at outdone

/-- Whether the check fails is no matter of the guards. -/
theorem finding_ignoring_eq_error (routine : Routine) (fault : WildcardFault) :
    finding .sufficientContexts (context.ignoring false) routine = .error fault ↔
      finding .sufficientContexts (context.ignoring true) routine = .error fault := by
  rw [finding_eq, finding_eq, map_eq_error_iff, map_eq_error_iff]
  rfl

/-! ### All routines -/

/-- What is left of a list of optional items is among what is left of another one, if each item that
is there has a companion. -/
theorem sublistForall₂_filterMap {α : Type} {related : α → α → Prop} {found more : List (Option α)}
    (companions : List.Forall₂ (fun item other => ∀ less, item = some less →
      ∃ greater, other = some greater ∧ related less greater) found more) :
    List.SublistForall₂ related (found.filterMap fun item => item)
      (more.filterMap fun item => item) := by
  induction companions with
  | nil => exact .nil
  | @cons item other found more here _ ih =>
    cases item with
    | some less =>
      obtain ⟨greater, rfl, isRelated⟩ := here less rfl
      exact .cons isRelated ih
    | none =>
      cases other with
      | none => exact ih
      | some greater => exact .cons_right ih

/-- A routine that is reported while memoization is ignored is also reported when it is not, with as
many scenarios and with no fewer branches and no smaller gap. So the findings of the former run are,
one by one and in the same order, outdone by some of the latter, and the runs fail alike. -/
theorem reports_of_ignored_guards (context : Context) (before later : List CheckKind) :
    let ignoring := context.ignoring true
    let counting := context.ignoring false
    (∀ routine less, finding .sufficientContexts ignoring routine = .ok (some less) →
      ∃ more, finding .sufficientContexts counting routine = .ok (some more) ∧
        Outdone context routine less more) ∧
    (∀ found, outcomeAfter before .sufficientContexts ignoring = .ok found →
      ∃ more, outcomeAfter later .sufficientContexts counting = .ok more ∧
        List.SublistForall₂ (fun less more => ∃ routine, Outdone context routine less more)
          found more) ∧
    ∀ fault, outcomeAfter later .sufficientContexts counting = .error fault ↔
      outcomeAfter before .sufficientContexts ignoring = .error fault := by
  intro ignoring counting
  rw [outcomeAfter_eq before (by decide), outcomeAfter_eq later (by decide)]
  refine ⟨?_, ?_, ?_⟩
  · intro routine less judged
    obtain ⟨_, found, companion⟩ := finding_ignoring judged
    obtain ⟨more, rfl, outdone⟩ := companion less rfl
    exact ⟨more, found, outdone⟩
  · intro found reported
    obtain ⟨results, judged, rfl⟩ := exists_of_map_eq_ok reported
    have companion (routine : Routine) (found : Option Diagnostic)
        (judged : finding .sufficientContexts ignoring routine = .ok found) :
        ∃ more, finding .sufficientContexts counting routine = .ok more ∧
          ∀ less, found = some less → ∃ greater, more = some greater ∧
            ∃ routine, Outdone context routine less greater := by
      obtain ⟨more, isMore, outdone⟩ := finding_ignoring judged
      refine ⟨more, isMore, fun less isLess => ?_⟩
      obtain ⟨greater, isGreater, here⟩ := outdone less isLess
      exact ⟨greater, isGreater, routine, here⟩
    obtain ⟨others, judgedToo, companions⟩ := exists_forall₂_of_mapM companion judged
    refine ⟨_, ?_, sublistForall₂_filterMap companions⟩
    have same : routinesOf counting = routinesOf ignoring := rfl
    rw [reports, same, judgedToo]
    rfl
  · intro fault
    rw [reports, reports, map_eq_error_iff, map_eq_error_iff]
    exact mapM_eq_error_iff finding_ignoring_eq_error fault

/-! ### A guard around a choice

The header for the only routine has no scenarios. The choice in its body has two branches, and the
guard around it two more. -/

def hoardedChoice : Node :=
  .conditional .ternary [.arm (some (.identifier "ready" none)) [.selfRef none] none]
    (some [.identifier "other" none]) false none

def hoardingMethod : Node :=
  .methodDef "call" [.opAssign (.instanceVar "@user" none) "||=" hoardedChoice none]
    (some ⟨2, 2, 4, 5⟩)

def hoardingClass : Node := .classDef "UserCreator" none [hoardingMethod] (some ⟨1, 0, 5, 3⟩)

def hoardingProgram : Node := .program [hoardingClass] (some ⟨1, 0, 6, 0⟩)

def hoardingContext : Context where
  project := creatorProject
  parsed := ⟨creatorPath, "", hoardingProgram, 0, 0⟩
  settings := { sufficientContexts := { excluded := [] } }

def hoardingRoutine : Routine :=
  .ofSite (some creatorPath) ⟨hoardingMethod, [(hoardingClass, 0), (hoardingProgram, 0)]⟩

theorem reports_of_ignored_guards_creator :
    finding .sufficientContexts (hoardingContext.ignoring true) hoardingRoutine =
        .ok (some (shortfall hoardingContext hoardingRoutine ⟨2, 0⟩)) ∧
      finding .sufficientContexts (hoardingContext.ignoring false) hoardingRoutine =
        .ok (some (shortfall hoardingContext hoardingRoutine ⟨4, 0⟩)) := by
  have ignored : finding .sufficientContexts (hoardingContext.ignoring true) hoardingRoutine =
      .ok (some (shortfall hoardingContext hoardingRoutine ⟨2, 0⟩)) := by
    apply eq_ok_of_toOption
    decide +kernel
  obtain ⟨outdone, -, -⟩ := reports_of_ignored_guards hoardingContext [] []
  obtain ⟨_, found, few, ⟨branches, contexts⟩, isFew, rfl, -, counted, same, -⟩ :=
    outdone hoardingRoutine _ ignored
  obtain rfl := shortfall_injective isFew
  have all : branches = 4 := counted.trans (by decide +kernel)
  have none : contexts = 0 := same.symm
  rw [all, none] at found
  exact ⟨ignored, found⟩

end SpecLint.Check
