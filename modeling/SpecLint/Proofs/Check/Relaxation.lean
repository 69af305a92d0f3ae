import SpecLint.Proofs.Check.Findings
import SpecLint.Proofs.Data.Attempt

/-!
# More files without headers

Settings name files whose units need no header for their only public routine. For such a routine a
check asks another question: whether an example documents the unit, or how many scenarios stand
under the headers of the unit. So naming more files need not take findings away. A header may
document a routine whose unit has no example, and scenarios of a unit may fall short where a routine
without a header has none to count.

## Main result

`reports_of_more_skips`: with more files named, a method check finds about each routine what it
found before, unless the unit of the routine is one that only the new names let off. About these it
finds what the question about the unit says, and so whatever is new is about one of them.
-/
namespace SpecLint.Check

open SpecLint.Code SpecLint.Spec
open SpecLint.Code.Concrete (construct token)

/-- Other names of files whose units need no header in a method check. -/
def Context.skipping (context : Context) (kind : CheckKind) (globs : List String) : Context :=
  match kind with
  | .fileHasSpec => context
  | .publicMethodHasSpec =>
    { context with settings.publicMethodHasSpec.skipFor := globs }
  | .sufficientContexts =>
    { context with settings.sufficientContexts.skipFor := globs }

/-- A unit that only the new names let off. -/
structure NewlyRelaxed (context : Context) (kind : CheckKind) (globs : List String)
    (unit : CodeUnit) : Prop where
  named : Glob.coversPath globs context.path = true
  unnamed : Glob.coversPath (kind.options context.settings).skipFor context.path = false
  single : (unit.countPublic (kind.options context.settings).excluded).1 = 1

variable {context : Context} {kind : CheckKind} {globs : List String}

/-! ### What the names do not touch -/

theorem options_skipping (perMethod : kind ≠ .fileHasSpec) :
    kind.options (context.skipping kind globs).settings =
      { kind.options context.settings with skipFor := globs } := by
  cases kind with
  | fileHasSpec => exact absurd rfl perMethod
  | publicMethodHasSpec => rfl
  | sufficientContexts => rfl

theorem path_skipping : (context.skipping kind globs).path = context.path := by
  cases kind <;> rfl

theorem routinesOf_skipping : routinesOf (context.skipping kind globs) = routinesOf context := by
  cases kind <;> rfl

theorem subjectOf_skipping :
    subjectOf (context.skipping kind globs) = subjectOf context := by
  cases kind <;> rfl

/-- What there is to say against a routine depends on the names only through the question asked. -/
theorem objection_skipping (skips : Bool) (subject : Subject) :
    objection (context.skipping kind globs) skips subject kind =
      objection context skips subject kind := by
  cases kind <;> rfl

/-! ### Which question is asked -/

theorem coversPath_of_subset {first second : List String} {path : Path}
    (wider : ∀ glob ∈ first, glob ∈ second) (covered : Glob.coversPath first path = true) :
    Glob.coversPath second path = true := by
  obtain ⟨glob, member, accepts⟩ := List.any_eq_true.mp covered
  exact List.any_eq_true.mpr ⟨glob, wider glob member, accepts⟩

/-- The question changes for the units that only the new names let off, and for no other. -/
theorem skipsHeaders_skipping (perMethod : kind ≠ .fileHasSpec)
    (wider : ∀ glob ∈ (kind.options context.settings).skipFor, glob ∈ globs) (unit : CodeUnit) :
    NewlyRelaxed context kind globs unit ∧
        skipsHeaders context (kind.options context.settings) unit = false ∧
        skipsHeaders (context.skipping kind globs)
          (kind.options (context.skipping kind globs).settings) unit = true ∨
      ¬NewlyRelaxed context kind globs unit ∧
        skipsHeaders (context.skipping kind globs)
            (kind.options (context.skipping kind globs).settings) unit =
          skipsHeaders context (kind.options context.settings) unit := by
  rw [options_skipping perMethod]
  simp only [skipsHeaders, path_skipping]
  by_cases relaxed : NewlyRelaxed context kind globs unit
  · left
    refine ⟨relaxed, ?_, ?_⟩
    · simp [relaxed.unnamed]
    · simp [relaxed.named, relaxed.single]
  · right
    refine ⟨relaxed, ?_⟩
    -- no new name covers the file, or an old one does too, or the unit has other routines
    cases named : Glob.coversPath globs context.path with
    | false =>
      have unnamed : ¬Glob.coversPath (kind.options context.settings).skipFor context.path = true :=
        fun covered => by simp [coversPath_of_subset wider covered] at named
      simp [unnamed]
    | true =>
      cases unnamed : Glob.coversPath (kind.options context.settings).skipFor context.path with
      | true => rfl
      | false =>
        have several : (unit.countPublic (kind.options context.settings).excluded).1 ≠ 1 :=
          fun single => relaxed ⟨named, unnamed, single⟩
        simp [several]

/-! ### Two runs -/

theorem finding_eq (kind : CheckKind) (context : Context) (routine : Routine) :
    finding kind context routine =
      (subjectOf context (kind.options context.settings).excluded routine).map fun subject =>
        subject.bind fun subject =>
          objection context (skipsHeaders context (kind.options context.settings) subject.unit)
            subject kind := rfl

theorem routine_of_subjectOf {patterns : List Pattern} {routine : Routine} {subject : Subject}
    (isSubject : subjectOf context patterns routine = .ok (some subject)) :
    subject.routine = routine := by
  unfold subjectOf at isSubject
  split at isSubject
  · cases isSubject
  · split at isSubject
    · obtain ⟨candidates, -, found⟩ := exists_of_map_eq_ok isSubject
      split at found <;> cases found
      rfl
    · cases isSubject

/-- A routine whose unit the names do not newly let off is judged as before; for the others, both
questions are asked. -/
theorem finding_skipping (perMethod : kind ≠ .fileHasSpec)
    (wider : ∀ glob ∈ (kind.options context.settings).skipFor, glob ∈ globs) (routine : Routine) :
    (∃ subject,
      subjectOf context (kind.options context.settings).excluded routine = .ok (some subject) ∧
      NewlyRelaxed context kind globs subject.unit ∧
      finding kind context routine = .ok (objection context false subject kind) ∧
      finding kind (context.skipping kind globs) routine =
        .ok (objection context true subject kind)) ∨
    (∀ subject,
      subjectOf context (kind.options context.settings).excluded routine = .ok (some subject) →
      ¬NewlyRelaxed context kind globs subject.unit) ∧
      finding kind (context.skipping kind globs) routine = finding kind context routine := by
  have excluded : (kind.options (context.skipping kind globs).settings).excluded =
      (kind.options context.settings).excluded := by rw [options_skipping perMethod]
  rw [finding_eq, finding_eq, excluded, subjectOf_skipping]
  cases found : subjectOf context (kind.options context.settings).excluded routine with
  | error fault => exact .inr ⟨fun _ impossible => (nomatch impossible), rfl⟩
  | ok subject =>
    cases subject with
    | none => exact .inr ⟨fun _ impossible => (nomatch impossible), rfl⟩
    | some subject =>
      rcases skipsHeaders_skipping perMethod wider subject.unit with
        ⟨relaxed, before, after⟩ | ⟨unrelaxed, same⟩
      · left
        refine ⟨subject, rfl, relaxed, ?_, ?_⟩
        · simp [Except.map, before]
        · simp [Except.map, after, objection_skipping]
      · right
        refine ⟨?_, ?_⟩
        · intro other same
          cases same
          exact unrelaxed
        · simp [Except.map, same, objection_skipping]

/-- Under more names for files without headers, a method check reports what its findings say, as it
does under fewer, and fails alike. A finding that is new is about a routine whose unit only the new
names let off, and there the check finds what the question about the unit says in place of the
question about the headers; about every other routine it finds what it found before. -/
theorem reports_of_more_skips (perMethod : kind ≠ .fileHasSpec)
    (wider : ∀ glob ∈ (kind.options context.settings).skipFor, glob ∈ globs)
    (before later : List CheckKind) :
    let subjectOf := subjectOf context (kind.options context.settings).excluded
    let second := context.skipping kind globs
    (outcomeAfter before kind context = reports kind context ∧
      outcomeAfter later kind second = reports kind second) ∧
    (∀ fault, reports kind second = .error fault ↔ reports kind context = .error fault) ∧
    (∀ routine diagnostic, finding kind second routine = .ok (some diagnostic) →
      finding kind context routine = .ok (some diagnostic) ∨
        ∃ subject, subjectOf routine = .ok (some subject) ∧
          NewlyRelaxed context kind globs subject.unit ∧
          objection context true subject kind = some diagnostic) ∧
    ∀ routine,
      (∀ subject, subjectOf routine = .ok (some subject) →
        NewlyRelaxed context kind globs subject.unit →
          finding kind context routine = .ok (objection context false subject kind) ∧
          finding kind second routine = .ok (objection context true subject kind)) ∧
      ((∀ subject, subjectOf routine = .ok (some subject) →
        ¬NewlyRelaxed context kind globs subject.unit) →
          finding kind second routine = finding kind context routine) := by
  -- so it is enough to know what is found about each routine
  have judged := finding_skipping perMethod wider
  refine ⟨⟨outcomeAfter_eq _ perMethod _, outcomeAfter_eq _ perMethod _⟩, ?_, ?_, ?_⟩
  · intro fault
    have alike (routine : Routine) (fault : WildcardFault) :
        finding kind (context.skipping kind globs) routine = .error fault ↔
          finding kind context routine = .error fault := by
      rcases judged routine with ⟨_, _, _, first, second⟩ | ⟨_, same⟩
      · simp [first, second]
      · rw [same]
    have failed {outcome : Except WildcardFault (List (Option Diagnostic))} :
        (outcome.map fun found => found.filterMap fun diagnostic => diagnostic) = .error fault ↔
          outcome = .error fault := by
      cases outcome <;> simp [Except.map]
    rw [reports, reports, routinesOf_skipping, failed, failed]
    exact mapM_eq_error_iff alike fault
  · intro routine diagnostic found
    rcases judged routine with ⟨subject, isSubject, relaxed, _, second⟩ | ⟨_, same⟩
    · right
      rw [second, Except.ok.injEq] at found
      exact ⟨subject, isSubject, relaxed, found⟩
    · left
      rw [← same, found]
  · intro routine
    refine ⟨?_, ?_⟩
    · intro subject isSubject relaxed
      rcases judged routine with ⟨other, isOther, _, first, second⟩ | ⟨unrelaxed, _⟩
      · rw [isSubject, Except.ok.injEq, Option.some.injEq] at isOther
        subst isOther
        exact ⟨first, second⟩
      · exact absurd relaxed (unrelaxed subject isSubject)
    · intro unrelaxed
      rcases judged routine with ⟨subject, isSubject, relaxed, _⟩ | ⟨_, same⟩
      · exact absurd relaxed (unrelaxed subject isSubject)
      · exact same

/-! ### A routine with a header and no example

The spec has a header for the only routine of the unit, and no example in it. -/

def creatorPath : Path := ⟨"", ["app", "services", "user_creator.rb"]⟩

def creatorSpecPath : Path := ⟨"", ["spec", "services", "user_creator_spec.rb"]⟩

def creatorMethod : Node := .methodDef "call" [] (some ⟨2, 2, 3, 5⟩)

def creatorClass : Node := .classDef "UserCreator" none [creatorMethod] (some ⟨1, 0, 4, 3⟩)

def creatorProgram : Node := .program [creatorClass] (some ⟨1, 0, 5, 0⟩)

def creatorSpec : String :=
  "RSpec.describe UserCreator do\n  describe '#call' do\n  end\nend\n"

def creatorTitle : Concrete :=
  construct "string" 41 48 none
    [token "\"" 41 42, construct "string_content" 42 47 none [], token "\"" 47 48]

def creatorHeader : Concrete :=
  construct "call" 32 57 none
    [construct "identifier" 32 40 (some "method") [],
      construct "argument_list" 41 48 (some "arguments") [creatorTitle],
      construct "do_block" 49 57 (some "block") [token "do" 49 51, token "end" 54 57]]

def creatorSpecTree : Concrete :=
  construct "program" 0 62 none
    [construct "call" 0 61 none
      [construct "constant" 0 5 (some "receiver") [],
        .node "." false false 5 6 (some "operator") [],
        construct "identifier" 6 14 (some "method") [],
        construct "argument_list" 15 26 (some "arguments") [construct "constant" 15 26 none []],
        construct "do_block" 27 61 (some "block")
          [token "do" 27 29, construct "body_statement" 32 57 (some "body") [creatorHeader],
            token "end" 58 61]]]

def creatorProject : Project where
  disk := ⟨[], [(["app"], .directory), (["app", "services"], .directory),
    (["app", "services", "user_creator.rb"], .file ByteArray.empty), (["spec"], .directory),
    (["spec", "services"], .directory),
    (["spec", "services", "user_creator_spec.rb"], .file creatorSpec.toUTF8)]⟩
  grammar := fun _ => creatorSpecTree

def creatorContext : Context where
  project := creatorProject
  parsed := ⟨creatorPath, "", creatorProgram, 0, 0⟩
  settings := { publicMethodHasSpec := { excluded := [] } }

def creatorRoutine : Routine :=
  .ofSite (some creatorPath) ⟨creatorMethod, [(creatorClass, 0), (creatorProgram, 0)]⟩

def creatorSubject : Subject where
  routine := creatorRoutine
  unit := .ofDeclaration ⟨creatorClass, [(creatorProgram, 0)]⟩
  candidates := ⟨some creatorSpecPath, [creatorSpecPath]⟩

def creatorFinding : Diagnostic :=
  omission creatorContext creatorRoutine ["describe '#call'", "describe '.call'"] creatorSpecPath

/-- Naming one more file adds a finding. -/
theorem skipping_adds_finding :
    (outcomeAfter [] .publicMethodHasSpec creatorContext).toOption = some [] ∧
      (outcomeAfter [] .publicMethodHasSpec
        (creatorContext.skipping .publicMethodHasSpec ["app/services/*"])).toOption =
          some [creatorFinding] := by
  constructor <;> decide +kernel

theorem reports_of_more_skips_creator :
    NewlyRelaxed creatorContext .publicMethodHasSpec ["app/services/*"] creatorSubject.unit ∧
      finding .publicMethodHasSpec creatorContext creatorRoutine = .ok none ∧
      finding .publicMethodHasSpec
        (creatorContext.skipping .publicMethodHasSpec ["app/services/*"]) creatorRoutine =
          .ok (some creatorFinding) := by
  have located : creatorContext.project.located creatorContext.path
      (some creatorSubject.unit.name) = .ok creatorSubject.candidates := by
    apply eq_ok_of_toOption
    decide +kernel
  have unit : creatorRoutine.unit = some creatorSubject.unit := rfl
  have isPublic : creatorRoutine.isPublic [] = true := by decide +kernel
  have isSubject : subjectOf creatorContext [] creatorRoutine = .ok (some creatorSubject) := by
    simp only [subjectOf, unit, isPublic, located, if_true]
    rfl
  have relaxed : NewlyRelaxed creatorContext .publicMethodHasSpec ["app/services/*"]
      creatorSubject.unit := ⟨by decide +kernel, by decide +kernel, by decide +kernel⟩
  have wider : ∀ glob ∈ (CheckKind.publicMethodHasSpec.options creatorContext.settings).skipFor,
      glob ∈ ["app/services/*"] := by decide
  obtain ⟨_, _, _, judged⟩ := reports_of_more_skips (by decide) wider [] []
  obtain ⟨first, second⟩ := (judged creatorRoutine).1 creatorSubject isSubject relaxed
  have documented : objection creatorContext false creatorSubject .publicMethodHasSpec = none := by
    decide +kernel
  have undocumented : objection creatorContext true creatorSubject .publicMethodHasSpec =
      some creatorFinding := by
    decide +kernel
  rw [documented] at first
  rw [undocumented] at second
  exact ⟨relaxed, first, second⟩

end SpecLint.Check
