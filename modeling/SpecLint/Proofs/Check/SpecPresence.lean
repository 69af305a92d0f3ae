import SpecLint.Proofs.Check.MissingSpec
import SpecLint.Proofs.Check.MoreSpecs

/-!
# Which files are reported as having no spec

A file is looked at through its units: the classes and modules it declares at any depth, or else the
one its name suggests. It has a spec if the expected spec is there, whatever that describes, or if
one of the further specs describes a unit of the file. The expected spec is the same for all units.

## Main result

`missing_spec_iff`: the check for spec files reports a file once, with the path of its expected
spec, if it has no spec, and says nothing otherwise; but it fails for a file with two stars in a row
in its stem.
-/
namespace SpecLint.Check

open SpecLint.Code SpecLint.Spec
open SpecLint.Code.Concrete (construct token)

variable {context : Context}

/-! ### Units of a file -/

/-- A unit of a file: one that it declares, or the one that its name suggests if it declares
none. -/
def IsUnitOf (context : Context) (name : String) : Prop :=
  (∃ site ∈ context.root.walk, site.node.isUnit = true ∧
    name = (CodeUnit.ofDeclaration site).name) ∨
  (∀ site ∈ context.root.walk, site.node.isUnit = false) ∧
    CodeUnit.inferredName? context.path = some name ∧ name ≠ ""

theorem mem_unitNames_iff {name : String} : name ∈ unitNames context ↔ IsUnitOf context name := by
  have declared (site : Site) : site ∈ CodeUnit.declarations context.root ↔
      site ∈ context.root.walk ∧ site.node.isUnit = true := List.mem_filter
  unfold unitNames IsUnitOf
  split
  next nothing =>
    have none : ∀ site ∈ context.root.walk, site.node.isUnit = false := by
      intro site walked
      rw [← Bool.not_eq_true]
      intro isUnit
      have inside := (declared site).mpr ⟨walked, isUnit⟩
      rw [nothing] at inside
      cases inside
    have noUnit : ¬∃ site ∈ context.root.walk, site.node.isUnit = true ∧
        name = (CodeUnit.ofDeclaration site).name := by
      rintro ⟨site, walked, isUnit, -⟩
      rw [none site walked] at isUnit
      cases isUnit
    simp only [noUnit, false_or, List.mem_filter, Option.mem_toList, decide_eq_true_eq]
    exact ⟨fun inferred => ⟨none, inferred⟩, And.right⟩
  next some =>
    obtain ⟨site, isDeclared⟩ := List.exists_mem_of_ne_nil _ some
    obtain ⟨walked, isUnit⟩ := (declared site).mp isDeclared
    constructor
    · intro member
      obtain ⟨unit, inside, rfl⟩ := List.mem_map.mp member
      exact .inl ⟨unit, ((declared unit).mp inside).1, ((declared unit).mp inside).2, rfl⟩
    · rintro (⟨unit, inside, isUnit, rfl⟩ | ⟨none, -⟩)
      · exact List.mem_map.mpr ⟨unit, (declared unit).mpr ⟨inside, isUnit⟩, rfl⟩
      · rw [none site walked] at isUnit
        cases isUnit

/-- A file has units if it declares some or if its name suggests one. -/
theorem exists_isUnitOf (units : (∃ site ∈ context.root.walk, site.node.isUnit = true) ∨
    ∃ name, CodeUnit.inferredName? context.path = some name ∧ name ≠ "") :
    ∃ name, IsUnitOf context name := by
  by_cases declares : ∃ site ∈ context.root.walk, site.node.isUnit = true
  · obtain ⟨site, walked, isUnit⟩ := declares
    exact ⟨_, .inl ⟨site, walked, isUnit, rfl⟩⟩
  · obtain ⟨name, inferred, named⟩ := units.resolve_left declares
    refine ⟨name, .inr ⟨fun site walked => ?_, inferred, named⟩⟩
    rw [← Bool.not_eq_true]
    exact fun isUnit => declares ⟨site, walked, isUnit⟩

/-! ### The verdict -/

/-- The search for the spec files of a file fails: it has a unit to search for, and its stem makes a
wildcard that no directory can answer. -/
def Unsearchable (context : Context) : Prop :=
  hasDoubledStar context.path.stem.toList = true ∧ ∃ name, IsUnitOf context name ∧ name ≠ ""

/-- A file has a spec: the expected one, or a further one that describes one of its units. -/
def HasSpec (context : Context) (base : Path) : Prop :=
  context.project.disk.isFile base = true ∨
    ∃ name, IsUnitOf context name ∧ name ≠ "" ∧
      ∃ path, IsFurther base context.path.stem path ∧ context.project.Describes name path

/-- The report of a file that has no spec. -/
def missingSpecFile (context : Context) (expected : String) : Diagnostic :=
  Diagnostic.atLocation context.path.toString CheckKind.fileHasSpec.id "missing_spec_file"
    ("Missing spec file. Expected " ++ expected) context.parsed.root.loc []

variable {base : Path}

theorem missingSpec_of_unsearchable (checkable : Layout.isCheckable context.path = true)
    (expected : Layout.expectedSpec? context.path = some base)
    (unsearchable : Unsearchable context) : missingSpec context = .error .doubledStar := by
  obtain ⟨doubled, name, isUnit, named⟩ := unsearchable
  have failed : Fails ((unitNames context).mapM fun unit =>
      context.project.located context.path (some unit)) :=
    fails_mapM.mpr ⟨name, mem_unitNames_iff.mpr isUnit, .doubledStar,
      located_doubledStar context.project expected doubled named⟩
  rw [missingSpec_eq, if_pos checkable, eq_error_of_fails failed]
  rfl

/-- The spec files of all units are located. -/
theorem exists_located_units (expected : Layout.expectedSpec? context.path = some base)
    (searchable : ¬Unsearchable context) :
    ∃ found : String → Candidates,
      (unitNames context).mapM (fun unit => context.project.located context.path (some unit)) =
        .ok ((unitNames context).map found) ∧
      ∀ unit ∈ unitNames context, (found unit).base = some base ∧
        ∀ path, path ∈ (found unit).paths ↔ context.project.IsSpecOf context.path unit path := by
  have each : ∀ unit ∈ unitNames context, ∃ candidates,
      context.project.located context.path (some unit) = .ok candidates ∧
        candidates.base = some base ∧
        ∀ path, path ∈ candidates.paths ↔ context.project.IsSpecOf context.path unit path := by
    intro unit member
    have fits : unit = "" ∨ hasDoubledStar context.path.stem.toList = false := by
      by_cases unnamed : unit = ""
      · exact .inl unnamed
      · right
        rw [← Bool.not_eq_true]
        exact fun doubled => searchable ⟨doubled, unit, mem_unitNames_iff.mp member, unnamed⟩
    obtain ⟨candidates, found, based, -, members⟩ := exists_located context.project expected fits
    exact ⟨candidates, found, based, members⟩
  have : Nonempty Candidates := ⟨⟨none, []⟩⟩
  choose! found located based members using each
  exact ⟨found, mapM_eq_ok_map located, fun unit member => ⟨based unit member, members unit member⟩⟩

/-- The units have spec files together exactly if the file has a spec. -/
theorem any_located_iff (expected : Layout.expectedSpec? context.path = some base)
    (units : ∃ name, IsUnitOf context name) {found : String → Candidates}
    (members : ∀ unit ∈ unitNames context, ∀ path,
      path ∈ (found unit).paths ↔ context.project.IsSpecOf context.path unit path) :
    (((unitNames context).map found).any fun candidates => !candidates.paths.isEmpty) = true ↔
      HasSpec context base := by
  simp only [List.any_map, List.any_eq_true, Function.comp_apply, Bool.not_eq_true',
    List.isEmpty_eq_false_iff_exists_mem]
  constructor
  · rintro ⟨unit, member, path, isSpec⟩
    obtain ⟨own, same, described⟩ := (members unit member path).mp isSpec
    rw [expected, Option.some.injEq] at same
    subst same
    rcases described with ⟨-, file⟩ | ⟨named, further, describes⟩
    · exact .inl file
    · exact .inr ⟨unit, mem_unitNames_iff.mp member, named, path, further, describes⟩
  · rintro (file | ⟨unit, isUnit, named, path, further, describes⟩)
    · -- the expected spec counts for every unit, and there is one
      obtain ⟨unit, isUnit⟩ := units
      have member := mem_unitNames_iff.mpr isUnit
      exact ⟨unit, member, base, (members unit member base).mpr
        ⟨base, expected, .inl ⟨rfl, file⟩⟩⟩
    · have member := mem_unitNames_iff.mpr isUnit
      exact ⟨unit, member, path, (members unit member path).mpr
        ⟨base, expected, .inr ⟨named, further, describes⟩⟩⟩

theorem missingSpec_of_searchable (checkable : Layout.isCheckable context.path = true)
    (expected : Layout.expectedSpec? context.path = some base)
    (units : ∃ name, IsUnitOf context name) (searchable : ¬Unsearchable context) :
    (HasSpec context base → missingSpec context = .ok []) ∧
      (¬HasSpec context base → missingSpec context =
        .ok [missingSpecFile context (Layout.projectRelative base (some context.path))]) := by
  obtain ⟨found, located, properties⟩ := exists_located_units expected searchable
  have covered := any_located_iff expected units fun unit member => (properties unit member).2
  rw [missingSpec_eq, if_pos checkable, located]
  constructor
  · intro hasSpec
    refine congrArg Except.ok ?_
    rw [verdict, if_pos (covered.mpr hasSpec)]
  · intro noSpec
    refine congrArg Except.ok ?_
    rw [verdict, if_neg fun some => noSpec (covered.mp some)]
    -- every unit leads to the same expected spec, so the first one does
    obtain ⟨name, isUnit⟩ := units
    obtain ⟨first, rest, names⟩ :=
      List.exists_cons_of_ne_nil (List.ne_nil_of_mem (mem_unitNames_iff.mpr isUnit))
    have first' := (properties first (by rw [names]; exact List.mem_cons_self)).1
    rw [names, List.map_cons, List.head?_cons, Option.bind_some, first']
    rfl

/-- A file that declares a unit or whose name suggests one is reported once if the expected spec is
no file and no further spec describes one of its units with a name, and not at all otherwise. The
report names the path of the expected spec from the spec root on: it is the path of the file from
its source root on, with the other root and the name ending of a spec. The check fails, though, for
a file with two stars in a row in its stem and a unit to search for. -/
theorem missing_spec_iff (checkable : Layout.isCheckable context.path = true)
    (units : (∃ site ∈ context.root.walk, site.node.isUnit = true) ∨
      ∃ name, CodeUnit.inferredName? context.path = some name ∧ name ≠ "")
    (before : List CheckKind) :
    ∃ above below base,
      Layout.expectedSpec? context.path = some base ∧
      Layout.Counterparts context.path base above below ∧
      Layout.appRelative context.path =
        "app/" ++ "/".intercalate below ++ "/" ++ context.path.stem ++ ".rb" ∧
      (Unsearchable context → outcomeAfter before .fileHasSpec context = .error .doubledStar) ∧
      (¬Unsearchable context → HasSpec context base →
        outcomeAfter before .fileHasSpec context = .ok []) ∧
      (¬Unsearchable context → ¬HasSpec context base →
        outcomeAfter before .fileHasSpec context = .ok [missingSpecFile context
          ("spec/" ++ "/".intercalate below ++ "/" ++ context.path.stem ++ "_spec.rb")]) := by
  obtain ⟨above, below, inProject⟩ := Layout.exists_inProject checkable
  have isSource := Layout.isCheckable_isSource checkable
  have name := Layout.name_of_isSource isSource
  have expected := inProject.expectedSpec? isSource
  rw [outcomeAfter_fileHasSpec]
  refine ⟨above, below, _, expected, ⟨?_, ?_, inProject.rootIndex?⟩, ?_, ?_, ?_⟩
  · rw [← name]
    exact inProject.parts
  · rw [Path.parts_ofParts]
    simp
  · rw [inProject.appRelative, name, ← String.append_assoc]
    rfl
  · exact missingSpec_of_unsearchable checkable expected
  · have verdict := missingSpec_of_searchable checkable expected (exists_isUnitOf units)
    rw [inProject.projectRelative, ← String.append_assoc] at verdict
    exact ⟨fun searchable => (verdict searchable).1, fun searchable => (verdict searchable).2⟩

/-! ### A file on its own

The file declares a class, and there are no specs in the project. -/

def loneProgram : Node := .program [.classDef "Foo" none [] (some ⟨1, 0, 2, 3⟩)] (some ⟨1, 0, 3, 0⟩)

def loneContext (stem : String) : Context where
  project :=
    { disk := ⟨[], [(["app"], .directory), (["app", "models"], .directory),
        (["app", "models", stem ++ ".rb"], .file ByteArray.empty)]⟩
      grammar := fun _ => construct "program" 0 0 none [] }
  parsed := ⟨⟨"", ["app", "models", stem ++ ".rb"]⟩, "", loneProgram, 0, 0⟩
  settings := {}

def loneSpec (stem : String) : Path := ⟨"", ["spec", "models", stem ++ "_spec.rb"]⟩

/-- Without a directory for specs there are none. -/
theorem not_hasSpec_of_noDirectory (missing : context.project.disk.isDirectory base.parent = false)
    (noFile : context.project.disk.isFile base = false) : ¬HasSpec context base := by
  rintro (file | ⟨name, -, -, _, ⟨front, text, -, rfl⟩, file, -⟩)
  · rw [noFile] at file
    cases file
  · obtain ⟨-, -, directory, -⟩ := Disk.listed_of_isFile (ne_dots _) file
    rw [missing] at directory
    cases directory

/-- For a file with two stars in its name, the check fails in place of reporting it. -/
theorem doubled_star_is_not_reported :
    Layout.isCheckable (loneContext "a**b").path = true ∧
      IsUnitOf (loneContext "a**b") "Foo" ∧ ¬HasSpec (loneContext "a**b") (loneSpec "a**b") ∧
      Layout.expectedSpec? (loneContext "a**b").path = some (loneSpec "a**b") ∧
      outcomeAfter [] .fileHasSpec (loneContext "a**b") = .error .doubledStar := by
  have checkable : Layout.isCheckable (loneContext "a**b").path = true := by decide +kernel
  have expected : Layout.expectedSpec? (loneContext "a**b").path = some (loneSpec "a**b") := by
    decide +kernel
  have isUnit : IsUnitOf (loneContext "a**b") "Foo" := mem_unitNames_iff.mp (by decide +kernel)
  refine ⟨checkable, isUnit, not_hasSpec_of_noDirectory (by decide +kernel) (by decide +kernel),
    expected, ?_⟩
  rw [outcomeAfter_fileHasSpec]
  exact missingSpec_of_unsearchable checkable expected ⟨by decide, "Foo", isUnit, by decide⟩

/-- The file under another name is searched for, and reported. -/
theorem missing_spec_iff_user :
    Layout.isCheckable (loneContext "user").path = true ∧ ¬Unsearchable (loneContext "user") ∧
      ¬HasSpec (loneContext "user") (loneSpec "user") ∧
      ∃ below, Layout.appRelative (loneContext "user").path =
          "app/" ++ "/".intercalate below ++ "/" ++ "user" ++ ".rb" ∧
        outcomeAfter [] .fileHasSpec (loneContext "user") = .ok
          [missingSpecFile (loneContext "user")
            ("spec/" ++ "/".intercalate below ++ "/" ++ "user" ++ "_spec.rb")] := by
  have checkable : Layout.isCheckable (loneContext "user").path = true := by decide +kernel
  have searchable : ¬Unsearchable (loneContext "user") := fun unsearchable =>
    absurd unsearchable.1 (by decide)
  have noSpec : ¬HasSpec (loneContext "user") (loneSpec "user") :=
    not_hasSpec_of_noDirectory (by decide +kernel) (by decide +kernel)
  have declares : ∃ site ∈ (loneContext "user").root.walk, site.node.isUnit = true := by
    rw [← List.any_eq_true]
    decide +kernel
  obtain ⟨above, below, base, expected, -, relative, -, -, reported⟩ :=
    missing_spec_iff checkable (.inl declares) []
  have known : Layout.expectedSpec? (loneContext "user").path = some (loneSpec "user") := by
    decide +kernel
  have stem : (loneContext "user").path.stem = "user" := by decide +kernel
  rw [known] at expected
  obtain rfl := Option.some.inj expected
  rw [stem] at relative reported
  exact ⟨checkable, searchable, noSpec, below, relative, reported searchable noSpec⟩

end SpecLint.Check
