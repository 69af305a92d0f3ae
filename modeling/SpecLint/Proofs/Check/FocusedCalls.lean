import SpecLint.Proofs.Check.MissingSpec
import SpecLint.Proofs.Check.MoreSpecs
import SpecLint.Proofs.Disk.Refill
import SpecLint.Proofs.Spec.FocusedSpec

/-!
# Checks of focused and skipped calls

A call in a spec file is focused or skipped. The tree keeps its form, so a call that describes no
constant in an outer statement leaves every unit its spec files and every header its scenarios.
Documentation is looked for in the text, where the letter breaks what reads across it: an example
phrase, and the line of an example.

## Main result

`outcome_of_focus`: the check for spec files and the one for scenarios say the same; the check for
documented routines does, too, if no phrase for a routine reads across the letter and no unit is
left without an example.

## Counterexample

`focused_description_is_lost`: with the letter, a call that describes the unit is no description.
-/
namespace SpecLint

open SpecLint.Code SpecLint.Spec
open SpecLint.Code.Concrete (construct token)

namespace Spec

variable {edit : Focusing} {project : Project} {place : List String} {bytes : ByteArray}

/-- A file of a project has the text of a call, and other bytes have the text with the letter. -/
structure Focusing.Rewrites (edit : Focusing) (project : Project) (place : List String)
    (bytes : ByteArray) : Prop where
  before : ∃ content, project.disk.entryAt? place = some (.file content) ∧
    Disk.textOfBytes content = edit.plainText
  after : Disk.textOfBytes bytes = edit.focusedText
  applies : edit.Applies project.grammar

/-- The project with other bytes in a file. -/
def Project.refill (project : Project) (place : List String) (bytes : ByteArray) : Project :=
  project.onDisk (project.disk.refill place bytes)

theorem any_congr_mem {α : Type} {items : List α} {test test' : α → Bool}
    (same : ∀ item ∈ items, test item = test' item) : items.any test = items.any test' := by
  rw [Bool.eq_iff_iff, List.any_eq_true, List.any_eq_true]
  exact exists_congr fun item => and_congr_right fun member => by rw [same item member]

/-! ### What no content changes -/

theorem isFile_refill (path : Path) :
    (project.refill place bytes).disk.isFile path = project.disk.isFile path :=
  Disk.isFile_refill ..

theorem wildcardPaths_refill (base : Path) :
    wildcardPaths (project.refill place bytes).disk base = wildcardPaths project.disk base := by
  unfold wildcardPaths
  simp only [Project.refill, Project.onDisk, Disk.place_refill, Disk.isDirectory_refill,
    Disk.names_refill]

theorem ownSpecs_refill (base : Path) :
    (project.refill place bytes).ownSpecs base = project.ownSpecs base := by
  rw [Project.ownSpecs, isFile_refill, Project.ownSpecs]

/-! ### What is read -/

namespace Focusing.Rewrites

variable (rewrites : edit.Rewrites project place bytes)

include rewrites

/-- A spec reads as before, or its text is the one that was changed. -/
theorem specText_refill (path : Path) :
    (project.refill place bytes).specText path = project.specText path ∨
      project.specText path = edit.plainText ∧
        (project.refill place bytes).specText path = edit.focusedText := by
  obtain ⟨content, file, text⟩ := rewrites.before
  unfold Project.specText Cache.firstRead Project.refill Project.onDisk
  rcases @Disk.readText_refill _ _ bytes _ file path with same | ⟨before, after⟩
  · rw [same]
    exact .inl rfl
  · rw [before, after]
    exact .inr ⟨text, rewrites.after⟩

theorem specParsed_refill (path : Path) :
    (project.refill place bytes).specParsed path = project.specParsed path ∨
      project.specParsed path = Parsed.ofText project.grammar path edit.plainText ∧
        (project.refill place bytes).specParsed path =
          Parsed.ofText project.grammar path edit.focusedText := by
  unfold Project.specParsed
  rcases rewrites.specText_refill path with same | ⟨before, after⟩
  · rw [same]
    exact .inl rfl
  · rw [before, after]
    exact .inr ⟨rfl, rfl⟩

variable (nothing : edit.DescribesNothing (project.grammar edit.plainText.toUTF8))

include nothing

theorem declaresUnit_refill (path : Path) (unit : String) :
    declaresUnit ((project.refill place bytes).specParsed path).root unit =
      declaresUnit (project.specParsed path).root unit := by
  rcases rewrites.specParsed_refill path with same | ⟨before, after⟩
  · rw [same]
  · rw [before, after]
    exact declaresUnit_focused rewrites.applies path nothing unit

theorem scenariosIn_refill (path : Path) (key : HeaderKey) (table : AliasTable)
    (relaxed : Option String) :
    scenariosIn key table relaxed ((project.refill place bytes).specParsed path).root =
      scenariosIn key table relaxed (project.specParsed path).root := by
  rcases rewrites.specParsed_refill path with same | ⟨before, after⟩
  · rw [same]
  · rw [before, after]
    cases relaxed with
    | some unit => exact countUnitContexts_focused rewrites.applies path nothing unit
    | none => exact countContexts_focused rewrites.applies path _

/-! ### What is located -/

theorem takeIn_refill (unit : String) :
    (project.refill place bytes).takeIn unit = project.takeIn unit := by
  funext kept path
  rw [Project.takeIn, isFile_refill, rewrites.declaresUnit_refill nothing, Project.takeIn]

/-- A unit has the same spec files. -/
theorem located_refill (source : Path) (unit : String) :
    (project.refill place bytes).located source (some unit) =
      project.located source (some unit) := by
  cases expected : Layout.expectedSpec? source with
  | none => rw [located_unexpected expected, located_unexpected expected]
  | some base =>
    by_cases unnamed : unit = ""
    · subst unnamed
      rw [located_unnamed expected, located_unnamed expected, ownSpecs_refill]
    · -- the same files are listed, and the same ones of them are taken in
      have here := (answers_locate_named project expected unnamed).eq_empty
      have there := (answers_locate_named (project.refill place bytes) expected unnamed).eq_empty
      rw [wildcardPaths_refill, ownSpecs_refill, rewrites.takeIn_refill nothing] at there
      exact there.trans here.symm

/-! ### What documents -/

omit nothing in
theorem documents_refill {key : HeaderKey} {paths : List Path}
    (spares : ∀ path ∈ paths, project.specText path = edit.plainText → edit.Spares key) :
    (project.refill place bytes).documents paths key = project.documents paths key := by
  unfold Project.documents
  refine any_congr_mem fun path member => ?_
  rcases rewrites.specText_refill path with same | ⟨before, after⟩
  · rw [same]
  · rw [before, after, focusedText, plainText, String.toList_ofList, String.toList_ofList,
      first?_focused (spares path member before)]

theorem exemplifies_refill {path : Path}
    (leaves : project.specText path = edit.plainText → edit.LeavesExample) (unit : String) :
    (project.refill place bytes).exemplifies unit path = project.exemplifies unit path := by
  unfold Project.exemplifies
  rw [rewrites.declaresUnit_refill nothing, rewrites.declaresUnit_refill nothing]
  rcases rewrites.specText_refill path with same | ⟨before, after⟩
  · rw [same]
  · rw [before, after, focusedText, plainText, String.toList_ofList, String.toList_ofList,
      hasExample_focused (leaves before)]

end Focusing.Rewrites

end Spec

namespace Check

variable {context : Context} {edit : Focusing} {place : List String} {bytes : ByteArray}

/-- The source file in a project with other bytes in a file. -/
def Context.refill (context : Context) (place : List String) (bytes : ByteArray) : Context :=
  context.onDisk (context.project.disk.refill place bytes)

/-- In the changed file, what documents a subject does not read across the letter: an example of its
unit if that is enough, or else the phrases for its routine. -/
def SparesSubject (context : Context) (edit : Focusing) (subject : Subject) : Prop :=
  (∃ path ∈ subject.candidates.paths, context.project.specText path = edit.plainText) →
    if skipsHeaders context context.settings.publicMethodHasSpec subject.unit then
      edit.LeavesExample
    else ∀ key ∈ subject.routine.headerKey ::
        context.settings.publicMethodHasSpec.aliases.aliases subject.routine.headerKey.toString,
      edit.Spares key

section Rewriting

variable (rewrites : edit.Rewrites context.project place bytes)
  (nothing : edit.DescribesNothing (context.project.grammar edit.plainText.toUTF8))

include rewrites nothing

theorem missingSpec_refill : missingSpec (context.refill place bytes) = missingSpec context := by
  have located (unit : String) :
      (context.project.onDisk (context.project.disk.refill place bytes)).located context.path
          (some unit) = context.project.located context.path (some unit) :=
    rewrites.located_refill nothing context.path unit
  rw [Context.refill, missingSpec_onDisk_eq, missingSpec_eq]
  simp only [located]

theorem subjectOf_refill (patterns : List Pattern) (routine : Routine) :
    subjectOf (context.refill place bytes) patterns routine =
      subjectOf context patterns routine := by
  unfold subjectOf
  cases routine.unit with
  | none => rfl
  | some unit =>
    have located : (context.refill place bytes).project.located (context.refill place bytes).path
        (some unit.name) = context.project.located context.path (some unit.name) :=
      rewrites.located_refill nothing ..
    simp only [located]

theorem scenarioTotal_refill (skips : Bool) (subject : Subject) (table : AliasTable) :
    scenarioTotal (context.refill place bytes) skips subject table =
      scenarioTotal context skips subject table := by
  unfold scenarioTotal
  congr 1
  exact List.map_congr_left fun path _ => rewrites.scenariosIn_refill nothing path ..

theorem documented_refill {subject : Subject} (spares : SparesSubject context edit subject) :
    documented (context.refill place bytes)
        (skipsHeaders context context.settings.publicMethodHasSpec subject.unit) subject
        context.settings.publicMethodHasSpec.aliases =
      documented context
        (skipsHeaders context context.settings.publicMethodHasSpec subject.unit) subject
        context.settings.publicMethodHasSpec.aliases := by
  unfold documented
  cases skips : skipsHeaders context context.settings.publicMethodHasSpec subject.unit with
  | true =>
    refine any_congr_mem fun path member => ?_
    refine rewrites.exemplifies_refill nothing (fun changed => ?_) _
    have leaves := spares ⟨path, member, changed⟩
    rwa [if_pos skips] at leaves
  | false =>
    refine any_congr_mem fun key wanted => rewrites.documents_refill fun path member changed => ?_
    have spared := spares ⟨path, member, changed⟩
    rw [if_neg (Bool.eq_false_iff.mp skips)] at spared
    exact spared key wanted

/-- A check finds about a routine what it found. -/
theorem finding_refill {kind : CheckKind} {routine : Routine}
    (spares : kind = .publicMethodHasSpec → ∀ subject,
      subjectOf context context.settings.publicMethodHasSpec.excluded routine =
        .ok (some subject) → SparesSubject context edit subject) :
    finding kind (context.refill place bytes) routine = finding kind context routine := by
  have options : (context.refill place bytes).settings = context.settings := rfl
  rw [finding_eq, finding_eq, options, subjectOf_refill rewrites nothing]
  cases found : subjectOf context (kind.options context.settings).excluded routine with
  | error fault => rfl
  | ok subject =>
    cases subject with
    | none => rfl
    | some subject =>
      -- the subject is the same, and so is what there is to say against it
      refine congrArg Except.ok ?_
      cases kind with
      | fileHasSpec => rfl
      | publicMethodHasSpec =>
        have documented := documented_refill rewrites nothing (spares rfl subject found)
        have skips : skipsHeaders (context.refill place bytes)
            (CheckKind.publicMethodHasSpec.options context.settings) subject.unit =
          skipsHeaders context context.settings.publicMethodHasSpec subject.unit := rfl
        simp only [Option.bind_some, objection, options, skips, documented]
        rfl
      | sufficientContexts =>
        simp only [Option.bind_some, objection, options, scenarioTotal_refill rewrites nothing]
        rfl

end Rewriting

/-- In a spec file, a call is focused or skipped that describes no constant in an outer statement.
The check for spec files and the one for scenarios say what they said. The check for documented
routines does, too, if the letter breaks nothing that documents one of its routines. -/
theorem outcome_of_focus (rewrites : edit.Rewrites context.project place bytes)
    (nothing : edit.DescribesNothing (context.project.grammar edit.plainText.toUTF8))
    (before later : List CheckKind) :
    (∀ kind, kind ≠ .publicMethodHasSpec →
      outcomeAfter later kind (context.refill place bytes) = outcomeAfter before kind context) ∧
    ((∀ routine ∈ routinesOf context, ∀ subject,
      subjectOf context context.settings.publicMethodHasSpec.excluded routine =
        .ok (some subject) → SparesSubject context edit subject) →
      outcomeAfter later .publicMethodHasSpec (context.refill place bytes) =
        outcomeAfter before .publicMethodHasSpec context) := by
  -- a method check says what it finds about each routine
  have judged {kind : CheckKind} (perMethod : kind ≠ .fileHasSpec)
      (same : ∀ routine ∈ routinesOf context,
        finding kind (context.refill place bytes) routine = finding kind context routine) :
      outcomeAfter later kind (context.refill place bytes) = outcomeAfter before kind context := by
    have routines : routinesOf (context.refill place bytes) = routinesOf context := rfl
    rw [outcomeAfter_eq later perMethod, outcomeAfter_eq before perMethod, reports, reports,
      routines, mapM_congr_mem same]
  constructor
  · intro kind other
    cases kind with
    | fileHasSpec =>
      rw [outcomeAfter_fileHasSpec, outcomeAfter_fileHasSpec, missingSpec_refill rewrites nothing]
    | publicMethodHasSpec => exact absurd rfl other
    | sufficientContexts =>
      exact judged (by decide) fun routine _ => finding_refill rewrites nothing (by simp)
  · intro spares
    exact judged (by decide) fun routine member =>
      finding_refill rewrites nothing fun _ => spares routine member

/-! ### A focused header

The header for the only routine is focused, in a spec that is known by its name. -/

def creatorFocusing : Focusing where
  front := "RSpec.describe UserCreator do\n  ".toList
  word := "describe"
  letter := 'f'
  tail := " '#call' do\n  end\nend\n".toList
  chosen := by decide
  focuses := .inl rfl
  opens := by decide +kernel
  closes := by decide +kernel

def creatorFocusContext : Context :=
  { creatorContext with project.grammar := fun bytes =>
      if bytes.size = 62 then creatorSpecTree else creatorSpecTree.relocate creatorFocusing.place }

theorem namesCall_creator : creatorFocusing.NamesCall creatorSpecTree where
  copied := by decide +kernel
  name := by decide +kernel
  method := by decide +kernel

theorem describesNothing_creator : creatorFocusing.DescribesNothing
    (creatorFocusContext.project.grammar creatorFocusing.plainText.toUTF8) := by
  decide +kernel

theorem rewrites_creator : creatorFocusing.Rewrites creatorFocusContext.project
    ["spec", "services", "user_creator_spec.rb"] creatorFocusing.focusedText.toUTF8 where
  before := ⟨creatorSpec.toUTF8, rfl, by decide +kernel⟩
  after := by decide +kernel
  applies := {
    relocated := rfl
    namesCall := namesCall_creator }

theorem sparesSubject_creator {routine : Routine} {subject : Subject}
    (member : routine ∈ routinesOf creatorFocusContext)
    (isSubject : subjectOf creatorFocusContext [] routine = .ok (some subject)) :
    SparesSubject creatorFocusContext creatorFocusing subject := by
  have keys : ∀ routine ∈ routinesOf creatorFocusContext,
      routine.headerKey = creatorRoutine.headerKey := by decide +kernel
  have key : subject.routine.headerKey = creatorRoutine.headerKey := by
    rw [routine_of_subjectOf isSubject, keys routine member]
  have wants : ¬skipsHeaders creatorFocusContext creatorFocusContext.settings.publicMethodHasSpec
      subject.unit = true := by
    simp [skipsHeaders, creatorFocusContext, creatorContext, Glob.coversPath]
  have spares : creatorFocusing.Spares creatorRoutine.headerKey :=
    Focusing.spares_of_not_stands (by decide +kernel) (by decide +kernel)
  rw [SparesSubject, if_neg wants, key]
  intro _ other wanted
  have alone : other = creatorRoutine.headerKey := List.mem_singleton.mp wanted
  rwa [alone]

/-- The unit has a spec file and the routine is documented, also by the focused header. -/
theorem outcome_of_focus_creator :
    creatorFocusing.Rewrites creatorFocusContext.project
        ["spec", "services", "user_creator_spec.rb"] creatorFocusing.focusedText.toUTF8 ∧
      creatorFocusing.DescribesNothing
        (creatorFocusContext.project.grammar creatorFocusing.plainText.toUTF8) ∧
      outcomeAfter [] .fileHasSpec (creatorFocusContext.refill
        ["spec", "services", "user_creator_spec.rb"] creatorFocusing.focusedText.toUTF8) =
          .ok [] ∧
      outcomeAfter [] .publicMethodHasSpec (creatorFocusContext.refill
        ["spec", "services", "user_creator_spec.rb"] creatorFocusing.focusedText.toUTF8) =
          .ok [] := by
  have hasSpec : outcomeAfter [] .fileHasSpec creatorFocusContext = .ok [] := by
    apply eq_ok_of_toOption
    decide +kernel
  have documented : outcomeAfter [] .publicMethodHasSpec creatorFocusContext = .ok [] := by
    apply eq_ok_of_toOption
    decide +kernel
  obtain ⟨others, routines⟩ := outcome_of_focus rewrites_creator describesNothing_creator [] []
  have spared := routines fun routine member subject isSubject =>
    sparesSubject_creator member isSubject
  exact ⟨rewrites_creator, describesNothing_creator,
    (others .fileHasSpec (by decide)).trans hasSpec, spared.trans documented⟩

/-! ### A focused description

The only spec file of a unit is known by the call that describes the unit. -/

def descriptionFocusing : Focusing where
  front := "RSpec.".toList
  word := "describe"
  letter := 'f'
  tail := " User do\nend\n".toList
  chosen := by decide
  focuses := .inl rfl
  opens := by decide +kernel
  closes := by decide +kernel

def userClass : Node := .classDef "User" none [] (some ⟨1, 0, 2, 3⟩)

def userProgram : Node := .program [userClass] (some ⟨1, 0, 3, 0⟩)

def describedContext : Context where
  project :=
    { disk := ⟨[], [(["app"], .directory), (["app", "models"], .directory),
        (["app", "models", "user.rb"], .file "class User\nend\n".toUTF8), (["spec"], .directory),
        (["spec", "models"], .directory),
        (["spec", "models", "user_extra_spec.rb"], .file userExtraSpec.toUTF8)]⟩
      grammar := fun bytes =>
        if bytes.size = 27 then userExtraSpecTree
        else userExtraSpecTree.relocate descriptionFocusing.place }
  parsed := ⟨userPath, "class User\nend\n", userProgram, 0, 0⟩
  settings := {}

def userMissing : Diagnostic :=
  Diagnostic.atLocation userPath.toString CheckKind.fileHasSpec.id "missing_spec_file"
    "Missing spec file. Expected spec/models/user_spec.rb" userProgram.loc []

/-- With the letter, a call that describes the unit is no description. -/
theorem focused_description_is_lost :
    descriptionFocusing.Rewrites describedContext.project
        ["spec", "models", "user_extra_spec.rb"] descriptionFocusing.focusedText.toUTF8 ∧
      (outcomeAfter [] .fileHasSpec describedContext).toOption = some [] ∧
      (outcomeAfter [] .fileHasSpec (describedContext.refill
        ["spec", "models", "user_extra_spec.rb"] descriptionFocusing.focusedText.toUTF8)).toOption =
          some [userMissing] := by
  have rewrites : descriptionFocusing.Rewrites describedContext.project
      ["spec", "models", "user_extra_spec.rb"] descriptionFocusing.focusedText.toUTF8 := {
    before := ⟨userExtraSpec.toUTF8, rfl, by decide +kernel⟩
    after := by decide +kernel
    applies := ⟨rfl, by decide +kernel, by decide +kernel, by decide +kernel⟩ }
  refine ⟨rewrites, ?_, ?_⟩ <;> decide +kernel

end Check

end SpecLint
