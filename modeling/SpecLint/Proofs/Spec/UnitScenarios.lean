import SpecLint.Proofs.Spec.Recall

/-!
# Examples and scenarios of a unit

Where a routine needs no header of its own, one question is whether some spec file has an example
and describes the unit, the other one how many scenarios stand under the headers of the unit. Both
look for `describe` calls that name the unit, but not for the same ones: the former is content with
the last constant of its name and with a call that has no block.

## Main result

`unitContextTotal_of_examples`: of a unit that has examples, scenarios are counted exactly if one of
the spec files has a header with a block that names the unit in full.
-/
namespace SpecLint.Spec

open SpecLint.Code
open SpecLint.Code.Concrete (construct token)

variable {project : Project} {paths : List Path} {unit : String}

theorem declaresUnit_iff {tree : Node} :
    declaresUnit tree unit = true ↔ unitHeaders tree unit ≠ [] := by
  simp [declaresUnit]

theorem countUnitContexts_eq_none_iff {tree : Node} :
    countUnitContexts tree unit = none ↔
      ∀ header ∈ unitHeaders tree unit, hasBlock header = false := by
  simp [countUnitContexts, scenarios_eq_none_iff, List.filter_eq_nil_iff]

theorem sumCounts_unit_eq_none_iff :
    sumCounts (paths.map fun path => countUnitContexts (project.specParsed path).root unit) = none ↔
      ∀ path ∈ paths, ∀ header ∈ unitHeaders (project.specParsed path).root unit,
        hasBlock header = false := by
  simp only [sumCounts_eq_none_iff, List.forall_mem_map, countUnitContexts_eq_none_iff]

/-- Where a unit has examples, one of its spec files has an example and a header that names it in
full or by its last constant. Its scenarios are counted, and a routine is compared with them, unless
no header that names it in full has a block. -/
theorem unitContextTotal_of_examples {cache later : Cache} (recalls : cache.Recalls project)
    (laterRecalls : later.Recalls project)
    (accepted : (hasExamplesForUnit project unit paths cache).1 = true) :
    let blockless := ∀ path ∈ paths, ∀ header ∈ unitHeaders (project.specParsed path).root unit,
      hasBlock header = false
    (∃ path ∈ paths, hasExample (project.specText path).toList = true ∧
      ∃ name ∈ [unit, CodeUnit.shortName unit],
        unitHeaders (project.specParsed path).root name ≠ []) ∧
    ((unitContextTotal project paths unit later).1 = none ↔ blockless) ∧
    ∀ branches key table,
      (compare project branches paths key table (some unit) later).1 = none ↔ blockless := by
  have examples : paths.any (project.exemplifies unit) = true := by
    rw [← (answers_hasExamplesForUnit unit paths cache recalls).1]
    exact accepted
  refine ⟨?_, ?_, fun branches key table => ?_⟩
  · obtain ⟨path, member, exemplifies⟩ := List.any_eq_true.mp examples
    simp only [Project.exemplifies, Bool.and_eq_true, Bool.or_eq_true, declaresUnit_iff]
      at exemplifies
    exact ⟨path, member, exemplifies.1, by simpa using exemplifies.2⟩
  · have counted := (answers_totalOver paths (countUnitContexts · unit) later laterRecalls).1
    exact counted ▸ sumCounts_unit_eq_none_iff
  · rw [(answers_compare branches paths key table (some unit) later laterRecalls).1,
      Option.map_eq_none_iff]
    exact sumCounts_unit_eq_none_iff

/-! ### A header with the last constant and one with the full name -/

/-- A description of a constant, with an example of fixed length at its start. -/
def describedWith (constant : Concrete) : Concrete :=
  let opening := constant.stop + 1
  construct "call" 0 (opening + 28) none
    [construct "constant" 0 5 (some "receiver") [], .node "." false false 5 6 (some "operator") [],
      construct "identifier" 6 14 (some "method") [],
      construct "argument_list" 15 constant.stop (some "arguments") [constant],
      construct "do_block" opening (opening + 28) (some "block")
        [token "do" opening (opening + 2),
          construct "body_statement" (opening + 5) (opening + 24) (some "body")
            [construct "call" (opening + 5) (opening + 24) none
              [construct "identifier" (opening + 5) (opening + 7) (some "method") [],
                construct "argument_list" (opening + 8) (opening + 15) (some "arguments")
                  [construct "string" (opening + 8) (opening + 15) none
                    [token "'" (opening + 8) (opening + 9),
                      construct "string_content" (opening + 9) (opening + 14) none [],
                      token "'" (opening + 14) (opening + 15)]],
                construct "do_block" (opening + 16) (opening + 24) (some "block")
                  [token "do" (opening + 16) (opening + 18),
                    token "end" (opening + 21) (opening + 24)]]],
          token "end" (opening + 25) (opening + 28)]]

def shortSpecPath : Path := ⟨"", ["spec", "creator_spec.rb"]⟩

def fullSpecPath : Path := ⟨"", ["spec", "creator_extra_spec.rb"]⟩

def shortSpec : String := "RSpec.describe Creator do\n  it 'works' do\n  end\nend\n"

def fullSpec : String := "RSpec.describe Users::Creator do\n  it 'works' do\n  end\nend\n"

def twoNamesProject : Project where
  disk := ⟨[], [(["spec"], .directory), (["spec", "creator_spec.rb"], .file shortSpec.toUTF8),
    (["spec", "creator_extra_spec.rb"], .file fullSpec.toUTF8)]⟩
  grammar bytes :=
    if bytes.size = 52 then
      construct "program" 0 52 none [describedWith (construct "constant" 15 22 none [])]
    else
      construct "program" 0 59 none
        [describedWith (construct "scope_resolution" 15 29 none
          [construct "constant" 15 20 (some "scope") [], token "::" 20 22,
            construct "constant" 22 29 (some "name") []])]

/-- Examples under the last constant of a name are found and not counted. -/
theorem short_name_is_not_counted :
    (hasExamplesForUnit twoNamesProject "Users::Creator" [shortSpecPath] .empty).1 = true ∧
      (unitContextTotal twoNamesProject [shortSpecPath] "Users::Creator" .empty).1 = none := by
  constructor <;> decide +kernel

/-- With a further spec file that gives the name in full, there is something to compare with. -/
theorem unitContextTotal_of_examples_full :
    (hasExamplesForUnit twoNamesProject "Users::Creator" [shortSpecPath, fullSpecPath]
        .empty).1 = true ∧
      (unitContextTotal twoNamesProject [shortSpecPath, fullSpecPath] "Users::Creator"
        .empty).1 ≠ none := by
  have recalls := Cache.recalls_empty twoNamesProject
  have accepted : (hasExamplesForUnit twoNamesProject "Users::Creator"
      [shortSpecPath, fullSpecPath] .empty).1 = true := by
    decide +kernel
  have counted : ¬∀ path ∈ [shortSpecPath, fullSpecPath],
      ∀ header ∈ unitHeaders (twoNamesProject.specParsed path).root "Users::Creator",
        hasBlock header = false := by
    decide +kernel
  obtain ⟨-, total, -⟩ := unitContextTotal_of_examples recalls recalls accepted
  exact ⟨accepted, mt total.mp counted⟩

end SpecLint.Spec
