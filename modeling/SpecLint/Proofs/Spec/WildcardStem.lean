import SpecLint.Proofs.Disk.Tree
import SpecLint.Proofs.Spec.FurtherSpecs

/-!
# Stems as wildcards

The stem of a source file is put into the wildcard for its further specs as it is. So it is read as
a wildcard itself: a stem without wildcard signs stands for the names that begin with it, any other
one for the names that begin with something it accepts, whether that is the stem or not.

## Main result

`wildcardPaths_of_stem`: which entries the search lists for a source file, and when it fails.
-/
namespace SpecLint.Spec

/-- No entry is listed twice. -/
theorem nodup_wildcardPaths {disk : Disk} (tree : disk.IsTree) {base : Path} {listed : List Path}
    (found : wildcardPaths disk base = .ok listed) : listed.Nodup := by
  unfold wildcardPaths at found
  split at found
  · cases found
  · -- the names of a directory differ, and so do the paths that end with them
    rw [← Except.ok.inj found, (List.mergeSort_perm _ _).nodup_iff]
    refine List.Nodup.map ?_ (List.Nodup.filter _ ?_)
    · intro left right same
      have names := congrArg Path.name same
      rwa [Path.name_child, Path.name_child] at names
    · split
      next place _ =>
        split
        · exact tree.nodup_names place
        · exact .nil
      next => exact .nil

/-- The search for the further specs of a source file fails exactly if the stem has two stars in a
row. Otherwise it lists in ascending order, each once, the entries beside the expected spec whose
names begin with something that the stem accepts as a wildcard, go on with an underscore and end
like those of specs. For a stem without wildcard signs these are the names that begin with the stem
itself. -/
theorem wildcardPaths_of_stem {disk : Disk} (tree : disk.IsTree) {source base : Path}
    (expected : Layout.expectedSpec? source = some base) :
    (hasDoubledStar source.stem.toList = true → wildcardPaths disk base = .error .doubledStar) ∧
    (hasDoubledStar source.stem.toList = false → ∃ listed, wildcardPaths disk base = .ok listed ∧
      (listed.Pairwise fun left right => left.le right = true ∧ left ≠ right) ∧
      ∀ path, path ∈ listed ↔ IsFurther base source.stem path ∧ disk.exists? path = true) ∧
    (Glob.IsPlain source.stem.toList → ∃ listed, wildcardPaths disk base = .ok listed ∧
      (listed.Pairwise fun left right => left.le right = true ∧ left ≠ right) ∧
      ∀ path, path ∈ listed ↔ IsBeside base source.stem path ∧ disk.exists? path = true) := by
  have named := Layout.name_of_expectedSpec? expected
  have single (one : hasDoubledStar source.stem.toList = false) :
      ∃ listed, wildcardPaths disk base = .ok listed ∧
        (listed.Pairwise fun left right => left.le right = true ∧ left ≠ right) ∧
        ∀ path, path ∈ listed ↔ IsFurther base source.stem path ∧ disk.exists? path = true := by
    obtain ⟨listed, found, ascending, members⟩ := wildcardPaths_eq disk named one
    exact ⟨listed, found,
      List.pairwise_and_iff.mpr ⟨ascending, nodup_wildcardPaths tree found⟩, members⟩
  refine ⟨fun doubled => ?_, single, fun plain => ?_⟩
  · rw [← hasDoubledStar_wildcard named] at doubled
    rw [wildcardPaths, if_pos doubled]
  · obtain ⟨listed, found, ascending, members⟩ := single (hasDoubledStar_of_isPlain plain)
    refine ⟨listed, found, ascending, fun path => ?_⟩
    rw [members, isFurther_iff_isBeside plain]

/-! Two files beside the expected spec: the name of one begins with the stem, that of the other with
what the stem accepts. -/

def bracketSource (stem : String) : Path := ⟨"", ["app", "models", stem ++ ".rb"]⟩

def bracketSpecs : Path := ⟨"", ["spec", "models"]⟩

def bracketDisk : Disk :=
  ⟨[], [(["spec"], .directory), (["spec", "models"], .directory),
    (["spec", "models", "user1_login_spec.rb"], .file ⟨#[]⟩),
    (["spec", "models", "user[1]_login_spec.rb"], .file ⟨#[]⟩)]⟩

theorem wildcardPaths_of_stem_bracket :
    bracketDisk.IsTree ∧
      Layout.expectedSpec? (bracketSource "user1") = some (bracketSpecs.child "user1_spec.rb") ∧
      Glob.IsPlain (bracketSource "user1").stem.toList ∧
      ∃ listed, wildcardPaths bracketDisk (bracketSpecs.child "user1_spec.rb") = .ok listed ∧
        bracketSpecs.child "user1_login_spec.rb" ∈ listed := by
  have tree : bracketDisk.IsTree := by decide +kernel
  have expected : Layout.expectedSpec? (bracketSource "user1") =
      some (bracketSpecs.child "user1_spec.rb") := by decide +kernel
  have plain : Glob.IsPlain (bracketSource "user1").stem.toList := by decide +kernel
  have stem : (bracketSource "user1").stem = "user1" := by decide +kernel
  obtain ⟨-, -, literal⟩ := wildcardPaths_of_stem tree expected
  obtain ⟨listed, found, -, members⟩ := literal plain
  refine ⟨tree, expected, plain, listed, found, (members _).mpr ⟨?_, by decide +kernel⟩⟩
  rw [stem]
  exact ⟨"login", rfl⟩

/-- For a stem with brackets the search lists a file whose name does not begin with the stem, and
passes over one whose name does. -/
theorem brackets_in_stem_are_read :
    Layout.expectedSpec? (bracketSource "user[1]") =
        some (bracketSpecs.child "user[1]_spec.rb") ∧
      ∃ listed, wildcardPaths bracketDisk (bracketSpecs.child "user[1]_spec.rb") = .ok listed ∧
        bracketSpecs.child "user1_login_spec.rb" ∈ listed ∧
        ¬IsBeside (bracketSpecs.child "user[1]_spec.rb") "user[1]"
          (bracketSpecs.child "user1_login_spec.rb") ∧
        bracketSpecs.child "user[1]_login_spec.rb" ∉ listed ∧
        IsBeside (bracketSpecs.child "user[1]_spec.rb") "user[1]"
          (bracketSpecs.child "user[1]_login_spec.rb") ∧
        bracketDisk.exists? (bracketSpecs.child "user[1]_login_spec.rb") = true := by
  refine ⟨by decide +kernel, ?_⟩
  have named : (bracketSpecs.child "user[1]_spec.rb").name = "user[1]" ++ Layout.specEnding := by
    decide
  obtain ⟨listed, found, -, members⟩ := wildcardPaths_eq bracketDisk named (by decide)
  refine ⟨listed, found, (members _).mpr ⟨⟨"user1", "login", by decide +kernel, rfl⟩,
    by decide +kernel⟩, ?_, fun own => ?_, ⟨"login", rfl⟩, by decide +kernel⟩
  · rintro ⟨text, same⟩
    have names := congrArg Path.name same
    rw [Path.name_child, Path.name_child] at names
    -- the name goes on with a digit where the stem has its bracket
    have fifth := congrArg (·.toList[4]?) names
    simp at fifth
  · obtain ⟨⟨front, text, matched, same⟩, -⟩ := (members _).mp own
    have names := congrArg Path.name same
    rw [Path.name_child, Path.name_child] at names
    have accepted := (matchSegment_wildcard named _).mpr ⟨front, text, matched, names⟩
    -- the bracket stands for the one character inside it
    have refused : Glob.matchSegment (wildcard (bracketSpecs.child "user[1]_spec.rb"))
        "user[1]_login_spec.rb" = false := by decide +kernel
    rw [accepted] at refused
    cases refused

end SpecLint.Spec
