import SpecLint.Proofs.Check.Relaxation
import SpecLint.Proofs.Disk.Extension
import SpecLint.Proofs.Spec.FurtherSpecs

/-!
# More spec files

A new file may become the expected spec of a source file or one of its further specs, so the spec
files of a unit may come in another order, and another one may be the first. But each file that
belonged to a unit belongs to it still, with the same text and the same tree. What documents a
routine is found in some of the files, so it is found again.

## Main result

`coverage_of_more_specs`: on a disk with more files, a source file that had a spec file has one, and
a routine that was documented is documented.
-/
namespace SpecLint

open SpecLint.Code SpecLint.Spec
open SpecLint.Code.Concrete (construct token)

namespace Spec

variable {project : Project} {larger : Disk}

/-- The project with another disk. -/
def Project.onDisk (project : Project) (disk : Disk) : Project := { project with disk }

/-! ### What is read -/

theorem specText_onDisk (grown : project.disk.Extends larger) {path : Path}
    (file : project.disk.isFile path = true) :
    (project.onDisk larger).specText path = project.specText path := by
  have same : larger.readText path = project.disk.readText path := by
    rw [Disk.readText, Disk.readText, grown.readBytes file]
  unfold Project.specText Cache.firstRead Project.onDisk
  rw [same]

theorem specParsed_onDisk (grown : project.disk.Extends larger) {path : Path}
    (file : project.disk.isFile path = true) :
    (project.onDisk larger).specParsed path = project.specParsed path := by
  rw [Project.specParsed, Project.specParsed, specText_onDisk grown file]
  rfl

/-! ### What is located -/

/-- The search in the directory of the specs fails on the wildcard alone, and what it lists it goes
on listing. -/
theorem wildcardPaths_extends {disk : Disk} (grown : disk.Extends larger) (base : Path) :
    (∃ fault, wildcardPaths disk base = .error fault ∧ wildcardPaths larger base = .error fault) ∨
      ∃ listed more, wildcardPaths disk base = .ok listed ∧ wildcardPaths larger base = .ok more ∧
        ∀ path ∈ listed, path ∈ more := by
  unfold wildcardPaths
  cases hasDoubledStar (wildcard base).toList with
  | true => exact .inl ⟨.doubledStar, rfl, rfl⟩
  | false =>
    refine .inr ⟨_, _, rfl, rfl, fun path member => ?_⟩
    simp only [List.mem_mergeSort, List.mem_map, List.mem_filter] at member ⊢
    obtain ⟨name, ⟨listed, matched⟩, rfl⟩ := member
    refine ⟨name, ⟨?_, matched⟩, rfl⟩
    -- a name is listed only in a directory, and that is there on both disks
    cases placed : disk.place base.parent with
    | error fault => simp [placed] at listed
    | ok place =>
      simp only [placed] at listed
      simp only [grown.place placed]
      cases directory : disk.isDirectory base.parent with
      | false => simp [directory] at listed
      | true =>
        rw [directory, if_pos rfl] at listed
        rw [grown.isDirectory directory, if_pos rfl]
        exact grown.names listed

/-- A candidate of a disk is a candidate of the larger one. -/
structure Grows (project : Project) (found more : Candidates) : Prop where
  base : more.base = found.base
  files : ∀ path ∈ found.paths, project.disk.isFile path = true
  paths : ∀ path ∈ found.paths, path ∈ more.paths

theorem grows_own (grown : project.disk.Extends larger) (base : Path) :
    Grows project ⟨some base, project.ownSpecs base⟩
      ⟨some base, (project.onDisk larger).ownSpecs base⟩ where
  base := rfl
  files path member := by
    obtain ⟨rfl, file⟩ := mem_ownSpecs.mp member
    exact file
  paths path member := by
    obtain ⟨rfl, file⟩ := mem_ownSpecs.mp member
    exact mem_ownSpecs.mpr ⟨rfl, grown.isFile file⟩

/-- A file that describes a unit describes it still. -/
theorem describes_onDisk (grown : project.disk.Extends larger) {unit : String} {path : Path}
    (describes : project.Describes unit path) : (project.onDisk larger).Describes unit path := by
  refine ⟨grown.isFile describes.1, ?_⟩
  rw [specParsed_onDisk grown describes.1]
  exact describes.2

/-- What is taken in over a list is taken in over a longer one, wherever the fold starts. -/
theorem grows_foldl_takeIn (grown : project.disk.Extends larger) (base : Path) (unit : String)
    {listed more : List Path} (longer : ∀ path ∈ listed, path ∈ more) :
    Grows project ⟨some base, listed.foldl (project.takeIn unit) (project.ownSpecs base)⟩
      ⟨some base, more.foldl ((project.onDisk larger).takeIn unit)
        ((project.onDisk larger).ownSpecs base)⟩ := by
  have own := grows_own grown base
  obtain ⟨added, folded, -, -, members⟩ := foldl_takeIn project unit (project.ownSpecs base) listed
  obtain ⟨later, foldedLater, -, -, membersLater⟩ := foldl_takeIn (project.onDisk larger) unit
    ((project.onDisk larger).ownSpecs base) more
  rw [folded, foldedLater]
  refine ⟨rfl, fun path member => ?_, fun path member => ?_⟩
  · rcases List.mem_append.mp member with expected | further
    · exact own.files path expected
    · exact ((members path).mp further).2.2.1
  · rcases List.mem_append.mp member with expected | further
    · exact List.mem_append_left _ (own.paths path expected)
    · obtain ⟨isListed, -, describes⟩ := (members path).mp further
      -- on the larger disk the file may have become the expected spec
      by_cases first : path ∈ (project.onDisk larger).ownSpecs base
      · exact List.mem_append_left _ first
      · exact List.mem_append_right _ ((membersLater path).mpr
          ⟨longer path isListed, first, describes_onDisk grown describes⟩)

/-- The spec files of a unit on a larger disk. -/
theorem located_onDisk (grown : project.disk.Extends larger) (source : Path) (unit : String) :
    (∃ fault, project.located source (some unit) = .error fault ∧
        (project.onDisk larger).located source (some unit) = .error fault) ∨
      ∃ found more, project.located source (some unit) = .ok found ∧
        (project.onDisk larger).located source (some unit) = .ok more ∧
        Grows project found more := by
  cases expected : Layout.expectedSpec? source with
  | none =>
    exact .inr ⟨_, _, located_unexpected expected _, located_unexpected expected _,
      ⟨rfl, by simp, by simp⟩⟩
  | some base =>
    by_cases unnamed : unit = ""
    · subst unnamed
      exact .inr ⟨_, _, located_unnamed expected, located_unnamed expected, grows_own grown base⟩
    · have here := (answers_locate_named project expected unnamed).eq_empty
      have there := (answers_locate_named (project.onDisk larger) expected unnamed).eq_empty
      rcases wildcardPaths_extends grown base with
        ⟨fault, failed, failedLater⟩ | ⟨listed, more, found, foundLater, longer⟩
      · left
        refine ⟨fault, ?_, ?_⟩
        · rw [failed] at here
          exact here
        · have failedLater : wildcardPaths (project.onDisk larger).disk base = .error fault :=
            failedLater
          rw [failedLater] at there
          exact there
      · right
        rw [found] at here
        have foundLater : wildcardPaths (project.onDisk larger).disk base = .ok more := foundLater
        rw [foundLater] at there
        exact ⟨_, _, here, there, grows_foldl_takeIn grown base unit longer⟩

/-! ### What documents -/

theorem any_grows {found more : Candidates} (grows : Grows project found more)
    {test later : Path → Bool}
    (keeps : ∀ path, project.disk.isFile path = true → test path = true → later path = true)
    (some : found.paths.any test = true) : more.paths.any later = true := by
  obtain ⟨path, member, passes⟩ := List.any_eq_true.mp some
  exact List.any_eq_true.mpr
    ⟨path, grows.paths path member, keeps path (grows.files path member) passes⟩

end Spec

namespace Check

variable {context : Context} {larger : Disk}

/-- The file with another disk around it. -/
def Context.onDisk (context : Context) (disk : Disk) : Context :=
  { context with project := context.project.onDisk disk }

@[simp] theorem Context.onDisk_project :
    (context.onDisk larger).project = context.project.onDisk larger := rfl

@[simp] theorem Context.onDisk_settings : (context.onDisk larger).settings = context.settings := rfl

/-- A routine that is documented in some spec files is documented in more. -/
theorem documented_onDisk (grown : context.project.disk.Extends larger) {found more : Candidates}
    (grows : Grows context.project found more) {skips : Bool} {routine : Routine} {unit : CodeUnit}
    {table : AliasTable} (before : documented context skips ⟨routine, unit, found⟩ table = true) :
    documented (context.onDisk larger) skips ⟨routine, unit, more⟩ table = true := by
  cases skips with
  | true =>
    simp only [documented, if_true] at before ⊢
    refine any_grows grows (fun path file exemplifies => ?_) before
    unfold Project.exemplifies at exemplifies ⊢
    rw [Context.onDisk_project, specText_onDisk grown file, specParsed_onDisk grown file]
    exact exemplifies
  | false =>
    simp only [documented, Bool.false_eq_true, if_false] at before ⊢
    obtain ⟨key, wanted, documents⟩ := List.any_eq_true.mp before
    refine List.any_eq_true.mpr ⟨key, wanted, ?_⟩
    unfold Project.documents at documents ⊢
    refine any_grows grows (fun path file stands => ?_) documents
    rw [Context.onDisk_project, specText_onDisk grown file]
    exact stands

/-! ### What is found -/

theorem paths_ne_nil_of_grows {project : Project} {found more : Candidates}
    (grows : Grows project found more) (some : found.paths ≠ []) : more.paths ≠ [] := by
  obtain ⟨path, member⟩ := List.exists_mem_of_ne_nil _ some
  exact List.ne_nil_of_mem (grows.paths path member)

/-- If one of the units had a spec file, one of them has. -/
theorem any_located {project : Project} {located later : List Candidates}
    (grows : List.Forall₂ (Grows project) located later)
    (some : (located.any fun candidates => !candidates.paths.isEmpty) = true) :
    (later.any fun candidates => !candidates.paths.isEmpty) = true := by
  induction grows with
  | nil => exact some
  | cons here _ ih =>
    simp only [List.any_cons, Bool.or_eq_true, Bool.not_eq_true', List.isEmpty_eq_false_iff] at *
    exact some.imp (paths_ne_nil_of_grows here) ih

theorem head_base_located {project : Project} {located later : List Candidates}
    (grows : List.Forall₂ (Grows project) located later) :
    later.head?.bind (·.base) = located.head?.bind (·.base) := by
  cases grows with
  | nil => rfl
  | cons here _ => exact here.base

/-- What the check for a spec file does with the spec files of the units. -/
def verdict (context : Context) (located : List Candidates) : List Diagnostic :=
  if located.any fun candidates => !candidates.paths.isEmpty then []
  else ((located.head?.bind (·.base)).map fun base =>
    Diagnostic.atLocation context.path.toString CheckKind.fileHasSpec.id "missing_spec_file"
      ("Missing spec file. Expected " ++ Layout.projectRelative base (some context.path))
      context.parsed.root.loc []).toList

theorem missingSpec_eq (context : Context) : missingSpec context =
    if Layout.isCheckable context.path then
      ((unitNames context).mapM fun unit =>
        context.project.located context.path (some unit)).map (verdict context)
    else .ok [] := rfl

theorem missingSpec_onDisk_eq (context : Context) (larger : Disk) :
    missingSpec (context.onDisk larger) =
      if Layout.isCheckable context.path then
        ((unitNames context).mapM fun unit =>
          (context.project.onDisk larger).located context.path (some unit)).map (verdict context)
      else .ok [] := rfl

/-- A unit that had a spec file has one, and the path to expect a spec at is the same. -/
theorem verdict_eq_nil {located later : List Candidates}
    (grows : List.Forall₂ (Grows context.project) located later)
    (fine : verdict context located = []) : verdict context later = [] := by
  unfold verdict at fine ⊢
  split at fine
  next covered => rw [if_pos (any_located grows covered)]
  next =>
    split
    · rfl
    · rw [head_base_located grows]
      exact fine

/-- The check for a spec file has nothing to say where it had nothing to say. -/
theorem missingSpec_onDisk (grown : context.project.disk.Extends larger)
    (fine : missingSpec context = .ok []) : missingSpec (context.onDisk larger) = .ok [] := by
  have companion (unit : String) (found : Candidates)
      (isFound : context.project.located context.path (some unit) = .ok found) :
      ∃ more, (context.project.onDisk larger).located context.path (some unit) = .ok more ∧
        Grows context.project found more := by
    rcases located_onDisk grown context.path unit with
      ⟨fault, failed, -⟩ | ⟨_, more, here, there, grows⟩
    · simp [failed] at isFound
    · rw [here, Except.ok.injEq] at isFound
      exact ⟨more, there, isFound ▸ grows⟩
  rw [missingSpec_eq] at fine
  rw [missingSpec_onDisk_eq]
  by_cases checkable : Layout.isCheckable context.path = true
  · rw [if_pos checkable] at fine ⊢
    obtain ⟨located, found, judged⟩ := exists_of_map_eq_ok fine
    obtain ⟨later, foundLater, grows⟩ := exists_forall₂_of_mapM companion found
    rw [foundLater]
    exact congrArg Except.ok (verdict_eq_nil grows judged)
  · exact if_neg checkable

theorem located_onDisk_eq_error (grown : context.project.disk.Extends larger) (unit : String)
    (fault : WildcardFault) :
    (context.project.onDisk larger).located context.path (some unit) = .error fault ↔
      context.project.located context.path (some unit) = .error fault := by
  rcases located_onDisk grown context.path unit with
    ⟨_, here, there⟩ | ⟨_, _, here, there, -⟩ <;> simp [here, there]

theorem missingSpec_onDisk_eq_error (grown : context.project.disk.Extends larger)
    (fault : WildcardFault) :
    missingSpec (context.onDisk larger) = .error fault ↔ missingSpec context = .error fault := by
  rw [missingSpec_onDisk_eq, missingSpec_eq]
  by_cases checkable : Layout.isCheckable context.path = true
  · rw [if_pos checkable, if_pos checkable, map_eq_error_iff, map_eq_error_iff]
    exact mapM_eq_error_iff (located_onDisk_eq_error grown) fault
  · rw [if_neg checkable, if_neg checkable]

/-- Looking at one routine fails where locating its spec files does. -/
theorem finding_onDisk_eq_error (grown : context.project.disk.Extends larger) (kind : CheckKind)
    (routine : Routine) (fault : WildcardFault) :
    finding kind (context.onDisk larger) routine = .error fault ↔
      finding kind context routine = .error fault := by
  rw [finding_eq, finding_eq, map_eq_error_iff, map_eq_error_iff]
  unfold subjectOf
  cases routine.unit with
  | none => simp
  | some unit =>
    cases isPublic : routine.isPublic (kind.options context.settings).excluded with
    | false => simp [isPublic, Context.onDisk_settings]
    | true =>
      simp only [Context.onDisk_settings, isPublic, if_true, map_eq_error_iff]
      exact located_onDisk_eq_error grown unit.name fault

/-- Every routine with spec files has a first one, so one without a finding is documented. -/
theorem objection_eq_none {skips : Bool} {subject : Subject}
    (specified : subject.candidates.paths ≠ []) :
    objection context skips subject .publicMethodHasSpec = none ↔
      documented context skips subject context.settings.publicMethodHasSpec.aliases = true := by
  have first : subject.candidates.primary ≠ none := by
    obtain ⟨path, rest, paths⟩ := List.exists_cons_of_ne_nil specified
    simp [Candidates.primary, paths]
  simp only [objection, ite_eq_left_iff, Option.map_eq_none_iff, first, imp_false, Bool.not_eq_true,
    Bool.not_eq_false]

/-- What is found about a routine whose unit has spec files. -/
theorem finding_of_located (context : Context) (kind : CheckKind) {routine : Routine}
    {unit : CodeUnit} {found : Candidates} (owned : routine.unit = some unit)
    (located : context.project.located context.path (some unit.name) = .ok found)
    (specified : found.paths ≠ []) :
    finding kind context routine =
      .ok (if routine.isPublic (kind.options context.settings).excluded then
        objection context (skipsHeaders context (kind.options context.settings) unit)
          ⟨routine, unit, found⟩ kind
      else none) := by
  rw [finding_eq]
  cases isPublic : routine.isPublic (kind.options context.settings).excluded with
  | false => simp [subjectOf, owned, isPublic, Except.map]
  | true => simp [subjectOf, owned, isPublic, located, specified, Except.map]

/-- A check that has nothing against a routine with spec files has nothing against it with more. -/
theorem finding_onDisk (grown : context.project.disk.Extends larger) {routine : Routine}
    {unit : CodeUnit} {found : Candidates} (owned : routine.unit = some unit)
    (located : context.project.located context.path (some unit.name) = .ok found)
    (specified : found.paths ≠ [])
    (fine : finding .publicMethodHasSpec context routine = .ok none) :
    ∃ more, (context.project.onDisk larger).located context.path (some unit.name) = .ok more ∧
      (∀ path ∈ found.paths, path ∈ more.paths) ∧
      finding .publicMethodHasSpec (context.onDisk larger) routine = .ok none := by
  rcases located_onDisk grown context.path unit.name with
    ⟨fault, failed, -⟩ | ⟨_, more, here, there, grows⟩
  · simp [failed] at located
  · rw [here, Except.ok.injEq] at located
    subst located
    refine ⟨more, there, grows.paths, ?_⟩
    have specifiedLater := paths_ne_nil_of_grows grows specified
    rw [finding_of_located context _ owned here specified] at fine
    rw [finding_of_located (context.onDisk larger) _ owned there specifiedLater,
      Context.onDisk_settings]
    cases isPublic :
      routine.isPublic (CheckKind.publicMethodHasSpec.options context.settings).excluded with
    | false => rfl
    | true =>
      rw [isPublic, if_pos rfl, Except.ok.injEq, objection_eq_none specified] at fine
      rw [if_pos rfl, Except.ok.injEq, objection_eq_none specifiedLater]
      -- whether the unit needs headers is not a question of its spec files
      exact documented_onDisk grown grows fine

/-- On a disk with more files, a source file that had a spec file has one, and a routine that had
spec files and was documented has these files still and is documented, whether or not its unit needs
headers. The checks fail alike, and the one for documented routines goes through the same routines
and says what it finds about each. -/
theorem coverage_of_more_specs (grown : context.project.disk.Extends larger)
    (before later : List CheckKind) :
    let second := context.onDisk larger
    let judged (context : Context) (routines : List Routine) :=
      (routines.mapM (finding .publicMethodHasSpec context)).map fun found =>
        found.filterMap fun diagnostic => diagnostic
    (outcomeAfter before .fileHasSpec context = .ok [] →
      outcomeAfter later .fileHasSpec second = .ok []) ∧
    (outcomeAfter before .publicMethodHasSpec context = judged context (routinesOf context) ∧
      outcomeAfter later .publicMethodHasSpec second = judged second (routinesOf context)) ∧
    (∀ routine unit found, routine.unit = some unit →
      context.project.located context.path (some unit.name) = .ok found → found.paths ≠ [] →
        finding .publicMethodHasSpec context routine = .ok none →
          finding .publicMethodHasSpec second routine = .ok none ∧
          ∃ more, second.project.located context.path (some unit.name) = .ok more ∧
            ∀ path ∈ found.paths, path ∈ more.paths) ∧
    ∀ kind fault, outcomeAfter later kind second = .error fault ↔
      outcomeAfter before kind context = .error fault := by
  refine ⟨?_, ⟨outcomeAfter_eq before (by decide) context, outcomeAfter_eq later (by decide) _⟩,
    ?_, ?_⟩
  · rw [outcomeAfter_fileHasSpec, outcomeAfter_fileHasSpec]
    exact missingSpec_onDisk grown
  · intro routine unit found owned located specified fine
    obtain ⟨more, there, kept, fineLater⟩ := finding_onDisk grown owned located specified fine
    exact ⟨fineLater, more, there, kept⟩
  · intro kind fault
    by_cases perMethod : kind = .fileHasSpec
    · subst perMethod
      rw [outcomeAfter_fileHasSpec, outcomeAfter_fileHasSpec]
      exact missingSpec_onDisk_eq_error grown fault
    · rw [outcomeAfter_eq later perMethod, outcomeAfter_eq before perMethod, reports, reports,
        map_eq_error_iff, map_eq_error_iff]
      exact mapM_eq_error_iff (finding_onDisk_eq_error grown kind) fault

/-! ### An expected spec beside another one

The header for the only routine stands in a further spec. Then the expected spec is added, without a
word in it, and becomes the first of the two. -/

def creatorExtraSpecPath : Path := ⟨"", ["spec", "services", "user_creator_extra_spec.rb"]⟩

def creatorExtraContext : Context where
  project :=
    { disk := ⟨[], [(["app"], .directory), (["app", "services"], .directory),
        (["app", "services", "user_creator.rb"], .file ByteArray.empty), (["spec"], .directory),
        (["spec", "services"], .directory),
        (["spec", "services", "user_creator_extra_spec.rb"], .file creatorSpec.toUTF8)]⟩
      grammar := fun bytes =>
        if bytes.size = 0 then construct "program" 0 0 none [] else creatorSpecTree }
  parsed := ⟨creatorPath, "", creatorProgram, 0, 0⟩
  settings := { publicMethodHasSpec := { excluded := [] } }

/-- The expected spec is there too. -/
def creatorBothDisk : Disk :=
  creatorExtraContext.project.disk.write creatorSpecPath (.file ByteArray.empty)

theorem coverage_of_more_specs_creator :
    creatorExtraContext.project.disk.Extends creatorBothDisk ∧
      (creatorExtraContext.onDisk creatorBothDisk).project.located creatorPath
          (some creatorSubject.unit.name) =
        .ok ⟨some creatorSpecPath, [creatorSpecPath, creatorExtraSpecPath]⟩ ∧
      outcomeAfter [] .fileHasSpec (creatorExtraContext.onDisk creatorBothDisk) = .ok [] ∧
      finding .publicMethodHasSpec (creatorExtraContext.onDisk creatorBothDisk) creatorRoutine =
        .ok none := by
  have grown : creatorExtraContext.project.disk.Extends creatorBothDisk :=
    Disk.extends_write (by decide +kernel) _
  have located : creatorExtraContext.project.located creatorExtraContext.path
      (some creatorSubject.unit.name) = .ok ⟨some creatorSpecPath, [creatorExtraSpecPath]⟩ := by
    apply eq_ok_of_toOption
    decide +kernel
  have both : (creatorExtraContext.onDisk creatorBothDisk).project.located creatorPath
      (some creatorSubject.unit.name) =
        .ok ⟨some creatorSpecPath, [creatorSpecPath, creatorExtraSpecPath]⟩ := by
    apply eq_ok_of_toOption
    decide +kernel
  have hasSpec : outcomeAfter [] .fileHasSpec creatorExtraContext = .ok [] := by
    apply eq_ok_of_toOption
    decide +kernel
  have isDocumented :
      finding .publicMethodHasSpec creatorExtraContext creatorRoutine = .ok none := by
    apply eq_ok_of_toOption
    decide +kernel
  obtain ⟨stillHasSpec, -, stillDocumented, -⟩ := coverage_of_more_specs grown [] []
  exact ⟨grown, both, stillHasSpec hasSpec, (stillDocumented creatorRoutine creatorSubject.unit
    ⟨some creatorSpecPath, [creatorExtraSpecPath]⟩ rfl located (by simp) isDocumented).1⟩

end Check

end SpecLint
