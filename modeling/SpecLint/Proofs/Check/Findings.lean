import SpecLint.Check.Run
import SpecLint.Proofs.Spec.Recall

/-!
# Findings of the method checks

The method checks go through the routines of a file one after the other and look things up on the
way. Since lookups do not depend on earlier ones, what a check says of a routine can be said of the
routine alone, and the check as a whole says what it says of each.

## Main result

`settles_rule`: whatever was found out before, the diagnostics of a method check are the findings
about the routines of the file, in source order, and the check fails where the spec files of one of
them cannot be located.
-/
namespace SpecLint.Check

open SpecLint.Code SpecLint.Spec SpecLint.Report

/-! ### Studies with a fixed outcome -/

/-- What was found out so far is what anyone would find out. -/
structure Knowledge.Recalls (context : Context) (knowledge : Knowledge) : Prop where
  cache : knowledge.cache.Recalls context.project
  located : ∀ unit found, knowledge.located.lookup unit = some found →
    context.project.located context.path (some unit) = .ok found

theorem Knowledge.recalls_empty (context : Context) : Knowledge.empty.Recalls context :=
  ⟨Cache.recalls_empty _, by simp [Knowledge.empty]⟩

variable {α β : Type} {context : Context}

/-- A study whose outcome does not depend on earlier ones. -/
def Settles (context : Context) (study : Study α) (outcome : Except WildcardFault α) : Prop :=
  ∀ knowledge, Knowledge.Recalls context knowledge →
    (study.run.run knowledge).1 = outcome ∧ Knowledge.Recalls context (study.run.run knowledge).2

theorem settles_pure (answer : α) : Settles context (pure answer) (.ok answer) :=
  fun _ recalls => ⟨rfl, recalls⟩

theorem Settles.bind {study : Study α} {next : α → Study β} {outcome : Except WildcardFault α}
    {final : α → Except WildcardFault β} (first : Settles context study outcome)
    (second : ∀ answer, outcome = .ok answer → Settles context (next answer) (final answer)) :
    Settles context (study >>= next) (outcome >>= final) := by
  intro knowledge recalls
  obtain ⟨said, kept⟩ := first knowledge recalls
  -- a failure ends the study, and an answer is handed on with what is known by then
  have unfolded : (study >>= next).run.run knowledge =
      ExceptT.bindCont next (study.run.run knowledge).1 (study.run.run knowledge).2 := rfl
  rw [unfolded, said]
  cases outcome with
  | error fault => exact ⟨rfl, kept⟩
  | ok answer => exact second answer rfl _ kept

/-- A study that succeeds is followed by what comes next. -/
theorem Settles.andThen {study : Study α} {next : α → Study β} {answer : α}
    {outcome : Except WildcardFault β} (first : Settles context study (.ok answer))
    (second : Settles context (next answer) outcome) :
    Settles context (study >>= next) outcome := by
  have bound : Settles context (study >>= next) (Except.ok answer >>= fun _ => outcome) := by
    refine first.bind fun given same => ?_
    cases same
    exact second
  exact bound

theorem settles_ofCache {act : StateM Cache α} {answer : α}
    (answers : Cache.Answers context.project act answer) :
    Settles context (Study.ofCache act) (.ok answer) := by
  intro knowledge recalls
  obtain ⟨said, kept⟩ := answers knowledge.cache recalls.cache
  exact ⟨congrArg Except.ok said, kept, recalls.located⟩

theorem settles_report (events : List Event) : Settles context (Study.report events) (.ok ⟨⟩) :=
  settles_ofCache (Cache.answers_report events)

theorem settles_mapM {items : List α} {study : α → Study β}
    {outcome : α → Except WildcardFault β}
    (each : ∀ item ∈ items, Settles context (study item) (outcome item)) :
    Settles context (items.mapM study) (items.mapM outcome) := by
  induction items with
  | nil => exact settles_pure []
  | cons item items ih =>
    rw [List.mapM_cons, List.mapM_cons]
    have rest := ih fun item member => each item (by simp [member])
    exact (each item (by simp)).bind fun _ _ => rest.bind fun _ _ => settles_pure _

theorem settles_locateUnit (unit : Option String) :
    Settles context (locateUnit context unit) (context.project.located context.path unit) := by
  intro knowledge recalls
  obtain ⟨said, kept⟩ := answers_locate context.path unit knowledge.cache recalls.cache
  exact ⟨said, kept, recalls.located⟩

/-- What is located is what will be located. -/
theorem Knowledge.Recalls.add {knowledge : Knowledge} {unit : String} {found : Candidates}
    (recalls : knowledge.Recalls context)
    (located : context.project.located context.path (some unit) = .ok found) :
    Knowledge.Recalls context { knowledge with located := (unit, found) :: knowledge.located } := by
  refine ⟨recalls.cache, fun other seen known => ?_⟩
  rw [List.lookup_cons] at known
  cases same : other == unit with
  | true =>
    rw [same, Option.some.injEq] at known
    rw [← known, beq_iff_eq.mp same, located]
  | false =>
    rw [same] at known
    exact recalls.located other seen known

/-- Locate the spec files of a unit and remember them. -/
def locateNew (context : Context) (unit : String) : Study Candidates := do
  let found ← locateUnit context (some unit)
  modify fun knowledge => { knowledge with located := (unit, found) :: knowledge.located }
  return found

theorem run_candidatesFor (unit : String) (knowledge : Knowledge) :
    (candidatesFor context unit).run.run knowledge =
      match knowledge.located.lookup unit with
      | some known => (.ok known, knowledge)
      | none => (locateNew context unit).run.run knowledge := by
  have looked : (candidatesFor context unit).run.run knowledge =
      (match knowledge.located.lookup unit with
        | some known => pure known
        | none => locateNew context unit : Study Candidates).run.run knowledge := rfl
  rw [looked]
  cases knowledge.located.lookup unit <;> rfl

theorem settles_locateNew (unit : String) :
    Settles context (locateNew context unit)
      (context.project.located context.path (some unit)) := by
  -- the outcome is written as a bind, as the study is one
  rw [← bind_pure (context.project.located context.path (some unit))]
  unfold locateNew
  refine (settles_locateUnit (some unit)).bind ?_
  intro found located later kept
  exact ⟨rfl, kept.add located⟩

/-- The spec files of a unit are those that a search with an empty memory finds. -/
theorem settles_candidatesFor (unit : String) :
    Settles context (candidatesFor context unit)
      (context.project.located context.path (some unit)) := by
  intro knowledge recalls
  rw [run_candidatesFor]
  -- a unit that was located before has the same spec files as one that is searched for
  cases known : knowledge.located.lookup unit with
  | some found => exact ⟨(recalls.located unit found known).symm, recalls⟩
  | none => exact settles_locateNew unit knowledge recalls

/-! ### One routine -/

/-- A public routine with spec files. -/
def subjectOf (context : Context) (patterns : List Pattern) (routine : Routine) :
    Except WildcardFault (Option Subject) :=
  match routine.unit with
  | none => .ok none
  | some unit =>
    if routine.isPublic patterns then
      (context.project.located context.path (some unit.name)).map fun candidates =>
        if candidates.paths.isEmpty then none else some ⟨routine, unit, candidates⟩
    else .ok none

/-- The options of a method check. -/
def CheckKind.options (settings : Settings) : CheckKind → MethodOptions
  | fileHasSpec => {}
  | publicMethodHasSpec => settings.publicMethodHasSpec
  | sufficientContexts => settings.sufficientContexts.toMethodOptions

/-- Whether the only public routine of a unit needs no header of its own. -/
def skipsHeaders (context : Context) (options : MethodOptions) (unit : CodeUnit) : Bool :=
  Glob.coversPath options.skipFor context.path && (unit.countPublic options.excluded).1 == 1

/-- Whether examples of the unit, or else a header, document a routine. -/
def documented (context : Context) (skips : Bool) (subject : Subject) (table : AliasTable) : Bool :=
  if skips then subject.candidates.paths.any (context.project.exemplifies subject.unit.name)
  else (subject.routine.headerKey :: table.aliases subject.routine.headerKey.toString).any
    (context.project.documents subject.candidates.paths)

/-- The scenarios of the unit, or else of the headers of a routine. -/
def scenarioTotal (context : Context) (skips : Bool) (subject : Subject) (table : AliasTable) :
    Option Nat :=
  sumCounts (subject.candidates.paths.map fun path =>
    scenariosIn subject.routine.headerKey table (if skips then some subject.unit.name else none)
      (context.project.specParsed path).root)

/-- What a method check has against a routine, depending on whether it needs a header. -/
def objection (context : Context) (skips : Bool) (subject : Subject) :
    CheckKind → Option Diagnostic
  | .fileHasSpec => none
  | .publicMethodHasSpec =>
    let table := context.settings.publicMethodHasSpec.aliases
    if documented context skips subject table then none
    else subject.candidates.primary.map
      (omission context subject.routine (expectedHeaders subject.routine.headerKey table).1)
  | .sufficientContexts =>
    let options := context.settings.sufficientContexts
    let branches := Routine.branches options.ignoreMemoization subject.routine.site.node.body
    (scenarioTotal context skips subject options.aliases).bind fun contexts =>
      if Comparison.sufficient ⟨branches, contexts⟩ then none
      else some (shortfall context subject.routine ⟨branches, contexts⟩)

/-- The finding of a method check about one routine. -/
def finding (kind : CheckKind) (context : Context) (routine : Routine) :
    Except WildcardFault (Option Diagnostic) :=
  let options := kind.options context.settings
  (subjectOf context options.excluded routine).map fun subject =>
    subject.bind fun subject =>
      objection context (skipsHeaders context options subject.unit) subject kind

/-- The routines that the method checks look at. -/
def routinesOf (context : Context) : List Routine :=
  if Layout.isCheckable context.path then Routine.collect context.root (some context.path) else []

/-- What a method check reports of a file. -/
def reports (kind : CheckKind) (context : Context) : Except WildcardFault (List Diagnostic) :=
  ((routinesOf context).mapM (finding kind context)).map fun found =>
    found.filterMap fun diagnostic => diagnostic

/-! ### A whole check -/

theorem settles_subject? (patterns : List Pattern) (routine : Routine) :
    Settles context (subject? context patterns routine) (subjectOf context patterns routine) := by
  unfold subject? subjectOf
  cases routine.unit with
  | none => exact settles_pure none
  | some unit =>
    cases routine.isPublic patterns with
    | false => exact settles_pure none
    | true =>
      refine (settles_candidatesFor unit.name).bind fun candidates _ => ?_
      dsimp only
      split <;> exact settles_pure _

theorem settles_isRelaxed (options : MethodOptions) (unit : CodeUnit) :
    Settles context (isRelaxed context options unit) (.ok (skipsHeaders context options unit)) := by
  unfold isRelaxed skipsHeaders
  cases Glob.coversPath options.skipFor context.path with
  | false => exact settles_pure false
  | true => exact (settles_report _).bind fun _ _ => settles_pure _

theorem settles_isDocumented (options : MethodOptions) (subject : Subject) :
    Settles context (isDocumented context options subject)
      (.ok (documented context (skipsHeaders context options subject.unit) subject
        options.aliases)) := by
  refine (settles_isRelaxed options subject.unit).andThen ?_
  cases skipsHeaders context options subject.unit with
  | true => exact settles_ofCache (answers_hasExamplesForUnit _ _)
  | false => exact settles_ofCache (answers_covers _ _ _)

theorem settles_documentationRule (subject : Subject) :
    Settles context (documentationRule context context.settings.publicMethodHasSpec subject)
      (.ok (objection context (skipsHeaders context context.settings.publicMethodHasSpec
        subject.unit) subject .publicMethodHasSpec)) := by
  -- a routine that is documented is passed over
  refine (settles_isDocumented _ subject).andThen ?_
  simp only [objection]
  split
  · exact settles_pure none
  · exact (settles_report _).andThen (settles_pure _)

theorem settles_scenarioRule (subject : Subject) :
    Settles context (scenarioRule context context.settings.sufficientContexts subject)
      (.ok (objection context (skipsHeaders context
        context.settings.sufficientContexts.toMethodOptions subject.unit) subject
        .sufficientContexts)) := by
  refine (settles_isRelaxed _ subject.unit).andThen ?_
  refine (settles_ofCache (answers_compare _ _ _ _ _)).andThen ?_
  rw [Option.bind_map]
  exact settles_pure _

/-- A check whose rule settles on every routine settles on the whole file. -/
theorem settles_checkRoutines {options : MethodOptions} {rule : Subject → Study (Option Diagnostic)}
    {judge : Subject → Option Diagnostic}
    (each : ∀ subject, Settles context (rule subject) (.ok (judge subject))) :
    Settles context (checkRoutines context options rule)
      (((routinesOf context).mapM fun routine =>
        (subjectOf context options.excluded routine).map fun subject => subject.bind judge).map
          fun found => found.filterMap fun diagnostic => diagnostic) := by
  unfold checkRoutines routinesOf
  cases Layout.isCheckable context.path with
  | false => exact settles_pure []
  | true =>
    refine (settles_mapM fun routine _ => ?_).bind fun found _ => settles_pure _
    refine (settles_subject? options.excluded routine).bind fun subject _ => ?_
    cases subject with
    | none => exact settles_pure none
    | some subject => exact each subject

/-- What a method check reports does not depend on what was found out before. -/
theorem settles_rule {kind : CheckKind} (perMethod : kind ≠ .fileHasSpec) :
    Settles context (kind.rule context) (reports kind context) := by
  cases kind with
  | fileHasSpec => exact absurd rfl perMethod
  | publicMethodHasSpec => exact settles_checkRoutines settles_documentationRule
  | sufficientContexts => exact settles_checkRoutines settles_scenarioRule

/-! ### A check after others -/

/-- What the check for spec files reports of a file. -/
def missingSpec (context : Context) : Except WildcardFault (List Diagnostic) :=
  if Layout.isCheckable context.path then
    ((unitNames context).mapM fun unit =>
      context.project.located context.path (some unit)).map fun located =>
        if located.any fun candidates => !candidates.paths.isEmpty then []
        else ((located.head?.bind (·.base)).map fun base =>
          Diagnostic.atLocation context.path.toString CheckKind.fileHasSpec.id "missing_spec_file"
            ("Missing spec file. Expected " ++ Layout.projectRelative base (some context.path))
            context.parsed.root.loc []).toList
  else .ok []

theorem settles_fileHasSpec : Settles context (fileHasSpec context) (missingSpec context) := by
  unfold fileHasSpec missingSpec
  cases Layout.isCheckable context.path with
  | false => exact settles_pure []
  | true =>
    refine (settles_mapM fun unit _ => settles_candidatesFor unit).bind fun located _ => ?_
    dsimp only
    split
    · exact settles_pure []
    · cases located.head?.bind (·.base) <;> exact settles_pure _

/-- What a check reports of a file. -/
def outcome (context : Context) : CheckKind → Except WildcardFault (List Diagnostic)
  | .fileHasSpec => missingSpec context
  | kind => reports kind context

/-- What a check reports does not depend on what was found out before. -/
theorem settles_outcome (context : Context) (kind : CheckKind) :
    Settles context (kind.rule context) (outcome context kind) := by
  cases kind with
  | fileHasSpec => exact settles_fileHasSpec
  | publicMethodHasSpec => exact settles_rule (by decide)
  | sufficientContexts => exact settles_rule (by decide)

/-- A run of checks leaves behind what anyone would find out. -/
theorem recalls_runChecks (kinds : List CheckKind) {knowledge : Knowledge}
    (recalls : knowledge.Recalls context) :
    Knowledge.Recalls context ((runChecks context kinds).run knowledge).2 := by
  induction kinds generalizing knowledge with
  | nil => exact recalls
  | cons kind kinds ih =>
    obtain ⟨said, kept⟩ := settles_outcome context kind knowledge recalls
    rw [runChecks, StateT.run_bind]
    cases ran : (kind.rule context).run.run knowledge with
    | mk said after =>
      rw [ran] at kept
      cases said with
      | error fault => exact kept
      | ok found => exact ih kept

/-- The outcome of a check of a file that other checks have gone through before. -/
def outcomeAfter (before : List CheckKind) (kind : CheckKind) (context : Context) :
    Except WildcardFault (List Diagnostic) :=
  ((kind.rule context).run.run ((runChecks context before).run Knowledge.empty).2).1

theorem outcomeAfter_eq (before : List CheckKind) {kind : CheckKind}
    (perMethod : kind ≠ .fileHasSpec) (context : Context) :
    outcomeAfter before kind context = reports kind context :=
  (settles_rule perMethod _ (recalls_runChecks before (Knowledge.recalls_empty context))).1

theorem outcomeAfter_fileHasSpec (before : List CheckKind) (context : Context) :
    outcomeAfter before .fileHasSpec context = missingSpec context :=
  (settles_fileHasSpec _ (recalls_runChecks before (Knowledge.recalls_empty context))).1

end SpecLint.Check
