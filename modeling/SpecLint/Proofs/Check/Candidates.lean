import SpecLint.Proofs.Check.Findings
import SpecLint.Proofs.Spec.FurtherSpecs
import SpecLint.Proofs.Spec.Question

/-!
# The candidates of a unit

While a file is analysed, the spec files of its units are looked for in the middle of other lookups:
of single spec files, of the specs of other units, and of the same unit before. None of these makes
a difference for the candidates of a unit.

## Main result

`candidates_whatever_was_asked`: the candidates of a named unit, after any requests.
-/
namespace SpecLint.Check

open SpecLint.Code SpecLint.Spec
open SpecLint.Code.Concrete (construct)

/-- What is looked up while a file is analysed. -/
inductive Request where
  /-- Something about a single spec file. -/
  | look (question : Question)
  /-- The spec files of a unit of some source file, searched anew. -/
  | locate (source : Path) (unit : Option String)
  /-- The spec files of a unit of the analysed file. -/
  | candidates (unit : String)

/-- What is known after a request. -/
def Request.answered (context : Context) (knowledge : Knowledge) : Request → Knowledge
  | look question =>
    { knowledge with cache := (question.ask context.project knowledge.cache).2 }
  | locate source unit =>
    { knowledge with cache := ((Spec.locate context.project source unit).run knowledge.cache).2 }
  | candidates unit => ((candidatesFor context unit).run.run knowledge).2

/-- What is known after requests in a row. -/
def Knowledge.after (context : Context) (requests : List Request) : Knowledge :=
  requests.foldl (Request.answered context) .empty

variable {context : Context}

theorem answers_ask {project : Project} (question : Question) :
    Cache.Answers project (question.ask project) (question.answer project) := by
  cases question with
  | isFile path => exact (Cache.answers_isFile path).map _
  | text path => exact (Cache.answers_text path).map _
  | parsed path => exact (Cache.answers_parsed path).map _

/-- No request makes what is known wrong. -/
theorem Knowledge.Recalls.answered {knowledge : Knowledge} (recalls : knowledge.Recalls context)
    (request : Request) : (request.answered context knowledge).Recalls context := by
  cases request with
  | look question => exact ⟨(answers_ask question _ recalls.cache).2, recalls.located⟩
  | locate source unit => exact ⟨(answers_locate source unit _ recalls.cache).2, recalls.located⟩
  | candidates unit => exact (settles_candidatesFor unit knowledge recalls).2

theorem Knowledge.recalls_after (context : Context) (requests : List Request) :
    (Knowledge.after context requests).Recalls context := by
  -- the induction is on the requests, whatever is known when they start
  have onwards : ∀ (requests : List Request) (knowledge : Knowledge),
      knowledge.Recalls context →
        (requests.foldl (Request.answered context) knowledge).Recalls context := by
    intro requests
    induction requests with
    | nil => exact fun _ recalls => recalls
    | cons request requests ih =>
      intro knowledge recalls
      exact ih _ (recalls.answered request)
  exact onwards requests .empty (recalls_empty context)

/-- Whether a path is a candidate depends on nothing but what lies there. -/
theorem mem_located_congr {source base : Path} {project : Project} {unit : String}
    {found : Candidates} (expected : Layout.expectedSpec? source = some base)
    (plain : Glob.IsPlain source.stem.toList) (named : unit ≠ "")
    (located : project.located source (some unit) = .ok found) {disk : Disk} {path : Path}
    (same : disk.lookUp path = project.disk.lookUp path) :
    ∃ there, Project.located ⟨disk, project.grammar⟩ source (some unit) = .ok there ∧
      (path ∈ there.paths ↔ path ∈ found.paths) := by
  obtain ⟨here, foundHere, _, _, membersHere⟩ :=
    located_named project expected plain named
  obtain ⟨there, foundThere, _, _, membersThere⟩ :=
    located_named ⟨disk, project.grammar⟩ expected plain named
  rw [located, Except.ok.injEq] at foundHere
  subst foundHere
  refine ⟨_, foundThere, ?_⟩
  have isFile : disk.isFile path = project.disk.isFile path := by
    rw [Disk.isFile, same, Disk.isFile]
  have bytes : disk.readBytes path = project.disk.readBytes path := by
    rw [Disk.readBytes, same, Disk.readBytes]
  have parsed : Project.specParsed ⟨disk, project.grammar⟩ path = project.specParsed path := by
    simp only [Project.specParsed, Project.specText, Cache.firstRead, Disk.readText, bytes]
  have own : path ∈ Project.ownSpecs ⟨disk, project.grammar⟩ base ↔
      path ∈ project.ownSpecs base := by
    rw [mem_ownSpecs, mem_ownSpecs]
    constructor
    · rintro ⟨rfl, file⟩
      exact ⟨rfl, isFile ▸ file⟩
    · rintro ⟨rfl, file⟩
      exact ⟨rfl, isFile.symm ▸ file⟩
  have further : path ∈ there ↔ path ∈ here := by
    rw [membersThere, membersHere, Project.Describes, Project.Describes, isFile, parsed]
  rw [List.mem_append, List.mem_append, own, further]

/-- Whatever was looked up before, a search for the spec files of a named unit gives the expected
spec, if it is a file, and then in ascending order all files beside it that are named
`<stem>_<text>_spec.rb` and describe the unit; the same is remembered for the unit. No file is given
twice, what lies elsewhere has no part in whether a path is given, and the primary file is the first
one or else the expected spec. -/
theorem candidates_whatever_was_asked {base : Path} {unit : String}
    (expected : Layout.expectedSpec? context.path = some base)
    (plain : Glob.IsPlain context.path.stem.toList) (named : unit ≠ "") :
    ∃ (further : List Path) (found : Candidates),
      found = ⟨some base, (if context.project.disk.isFile base then [base] else []) ++ further⟩ ∧
      (∀ earlier : List Request,
        ((locate context.project context.path (some unit)).run
          (Knowledge.after context earlier).cache).1 = .ok found ∧
        ((candidatesFor context unit).run.run (Knowledge.after context earlier)).1 = .ok found) ∧
      found.paths.Nodup ∧
      (further.Pairwise fun left right => left.le right = true) ∧
      (∀ path, path ∈ further ↔
        IsBeside base context.path.stem path ∧ context.project.Describes unit path) ∧
      (∀ (disk : Disk) (path : Path), disk.lookUp path = context.project.disk.lookUp path →
        ∃ there, Project.located ⟨disk, context.project.grammar⟩ context.path (some unit) =
            .ok there ∧
          (path ∈ there.paths ↔ path ∈ found.paths)) ∧
      found.primary = some (found.paths.head?.getD base) := by
  obtain ⟨further, located, once, ascending, members⟩ :=
    located_named context.project expected plain named
  refine ⟨further, _, rfl, fun earlier => ?_, once, ascending, members, ?_, ?_⟩
  · have recalls := Knowledge.recalls_after context earlier
    have searched := (answers_locate context.path (some unit) _ recalls.cache).1
    have recalled := (settles_candidatesFor unit _ recalls).1
    exact ⟨searched.trans located, recalled.trans located⟩
  · intro disk path same
    exact mem_located_congr expected plain named located same
  · rw [Candidates.primary]
    cases ((if context.project.disk.isFile base then [base] else []) ++ further).head? <;> rfl

/-! Three specs beside each other: one describes another unit, one has no text between the
underscores. -/

def profilePath : Path := ⟨"", ["app", "models", "user.rb"]⟩

def profileSpecs : Path := ⟨"", ["spec", "models"]⟩

/-- The tree of a text of the form `describe Name` with a name of four letters. -/
def describeTree : Concrete :=
  construct "program" 0 13 none
    [construct "call" 0 13 none
      [construct "identifier" 0 8 (some "method") [],
        construct "argument_list" 9 13 (some "arguments") [construct "constant" 9 13 none []]]]

def profileContext : Context where
  project :=
    { disk := ⟨[], [(["spec"], .directory), (["spec", "models"], .directory),
        (["spec", "models", "user_spec.rb"], .file "describe User".toUTF8),
        (["spec", "models", "user_post_spec.rb"], .file "describe Post".toUTF8),
        (["spec", "models", "user__spec.rb"], .file "describe User".toUTF8)]⟩
      grammar := fun _ => describeTree }
  parsed := ⟨profilePath, "", .program [] none, 0, 0⟩
  settings := {}

theorem candidates_of_profile :
    Layout.expectedSpec? profileContext.path = some (profileSpecs.child "user_spec.rb") ∧
      Glob.IsPlain profileContext.path.stem.toList ∧ "User" ≠ "" ∧
      ∃ further, (∀ earlier : List Request,
          ((candidatesFor profileContext "User").run.run
            (Knowledge.after profileContext earlier)).1 =
              .ok ⟨some (profileSpecs.child "user_spec.rb"),
                profileSpecs.child "user_spec.rb" :: further⟩) ∧
        profileSpecs.child "user__spec.rb" ∈ further ∧
        profileSpecs.child "user_post_spec.rb" ∉ further := by
  have expected : Layout.expectedSpec? profileContext.path =
      some (profileSpecs.child "user_spec.rb") := by decide +kernel
  have plain : Glob.IsPlain profileContext.path.stem.toList := by decide +kernel
  have named : "User" ≠ "" := by decide
  obtain ⟨further, _, rfl, always, _, _, members, _, _⟩ :=
    candidates_whatever_was_asked expected plain named
  have own : profileContext.project.disk.isFile (profileSpecs.child "user_spec.rb") = true := by
    decide +kernel
  rw [own] at always
  refine ⟨expected, plain, named, further, fun earlier => (always earlier).2, ?_, fun taken => ?_⟩
  · rw [members]
    exact ⟨⟨"", rfl⟩, by decide +kernel, by decide +kernel⟩
  · have describes := ((members _).mp taken).2.2
    revert describes
    decide +kernel

end SpecLint.Check
