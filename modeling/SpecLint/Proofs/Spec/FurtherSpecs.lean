import SpecLint.Proofs.Data.Attempt
import SpecLint.Proofs.Disk.Listing
import SpecLint.Proofs.Glob.Concatenation
import SpecLint.Proofs.Path.Counterpart
import SpecLint.Proofs.Path.Order
import SpecLint.Proofs.Spec.Recall

/-!
# The spec files of a named unit

Beside the expected spec `user_spec.rb` lie further ones, `user_login_spec.rb` for instance. They
are found by a wildcard in the names of the directory. The stem of the source file is part of the
wildcard, so wildcard signs in it keep their meaning: two stars in a row are refused, and otherwise
the search finds exactly the files under names that begin with something the stem accepts and that
describe the unit. A stem without wildcard signs means what it looks like.

## Main results

* `located_doubledStar`: no files are found for a stem with two stars in a row;
* `located_single`: the files found for a named unit, in their order;
* `located_named`: the same for a stem without wildcard signs.
-/
namespace SpecLint

namespace Spec

/-! ### The wildcard -/

/-- A character that is no star keeps two stars apart. -/
theorem hasDoubledStar_append {c : Char} (other : c ≠ '*') (text more : List Char) :
    hasDoubledStar (text ++ c :: more) = (hasDoubledStar text || hasDoubledStar more) := by
  fun_induction hasDoubledStar text with
  | case1 rest => simp [hasDoubledStar]
  | case2 first rest single ih =>
    rw [List.cons_append, ← ih, hasDoubledStar]
    -- a star that follows would have to be the character between the two texts
    rintro tail rfl same
    cases rest with
    | nil =>
      rw [List.nil_append, List.cons.injEq] at same
      exact other same.1
    | cons second rest =>
      rw [List.cons_append, List.cons.injEq] at same
      exact single rest rfl (by rw [same.1])
  | case3 =>
    rw [List.nil_append, Bool.false_or, hasDoubledStar]
    exact fun _ star _ => other star

theorem hasDoubledStar_of_isPlain {text : List Char} (plain : Glob.IsPlain text) :
    hasDoubledStar text = false := by
  fun_induction hasDoubledStar text with
  | case1 rest => exact absurd rfl (plain '*' List.mem_cons_self).1
  | case2 first rest _ ih => exact ih fun c member => plain c (List.mem_cons_of_mem _ member)
  | case3 => rfl

/-- The wildcard of an expected spec with a known stem. -/
theorem wildcard_eq {base : Path} {stem : String} (named : base.name = stem ++ Layout.specEnding) :
    wildcard base = stem ++ "_" ++ "*" ++ Layout.specEnding := by
  have cut : base.name.toList.take (base.name.toList.length - Layout.specEnding.toList.length) =
      stem.toList := by
    rw [named, String.toList_append, List.length_append, Nat.add_sub_cancel, List.take_left]
  rw [wildcard, cut, String.ofList_toList]
  apply String.toList_injective
  simp

/-- The wildcard has two stars in a row where the stem has. -/
theorem hasDoubledStar_wildcard {base : Path} {stem : String}
    (named : base.name = stem ++ Layout.specEnding) :
    hasDoubledStar (wildcard base).toList = hasDoubledStar stem.toList := by
  have written :
      (wildcard base).toList = stem.toList ++ '_' :: ("*" ++ Layout.specEnding).toList := by
    rw [wildcard_eq named]
    simp
  have behind : hasDoubledStar ("*" ++ Layout.specEnding).toList = false := by decide
  rw [written, hasDoubledStar_append (by decide), behind, Bool.or_false]

/-- The names that the wildcard accepts. -/
theorem matchSegment_wildcard {base : Path} {stem : String}
    (named : base.name = stem ++ Layout.specEnding) (name : String) :
    Glob.matchSegment (wildcard base) name = true ↔
      ∃ front text, Glob.matchSegment stem front = true ∧
        name = front ++ "_" ++ text ++ "_spec.rb" := by
  have written : wildcard base = stem ++ ("_" ++ "*" ++ Layout.specEnding) := by
    rw [wildcard_eq named]
    apply String.toList_injective
    simp
  rw [written, Glob.matchSegment_append (by decide)]
  simp only [Glob.matchSegment_star (by decide : Glob.IsPlain "_".toList)
    (by decide : Glob.IsPlain Layout.specEnding.toList)]
  constructor
  · rintro ⟨front, _, rfl, accepted, text, rfl⟩
    refine ⟨front, text, accepted, String.toList_injective ?_⟩
    simp [Layout.specEnding]
  · rintro ⟨front, text, accepted, rfl⟩
    refine ⟨front, _, String.toList_injective ?_, accepted, text, rfl⟩
    simp [Layout.specEnding]

/-! ### The listed files -/

/-- `path` lies beside the expected spec and is named `<front>_<text>_spec.rb` for some front that
the stem accepts as a wildcard and some text. -/
def IsFurther (base : Path) (stem : String) (path : Path) : Prop :=
  ∃ front text, Glob.matchSegment stem front = true ∧
    path = base.parent.child (front ++ "_" ++ text ++ "_spec.rb")

/-- `path` lies beside the expected spec and is named `<stem>_<text>_spec.rb` for some text. -/
def IsBeside (base : Path) (stem : String) (path : Path) : Prop :=
  ∃ text, path = base.parent.child (stem ++ "_" ++ text ++ "_spec.rb")

/-- A stem without wildcard signs accepts itself alone. -/
theorem isFurther_iff_isBeside {base path : Path} {stem : String}
    (plain : Glob.IsPlain stem.toList) : IsFurther base stem path ↔ IsBeside base stem path := by
  have itself (front : String) : Glob.matchSegment stem front = true ↔ front = stem := by
    rw [Glob.matchSegment, Glob.elements_plain plain, Glob.matchElements_exactly]
    exact String.toList_inj
  simp only [IsFurther, IsBeside, itself]
  constructor
  · rintro ⟨_, text, rfl, placed⟩
    exact ⟨text, placed⟩
  · rintro ⟨text, placed⟩
    exact ⟨stem, text, rfl, placed⟩

/-- The expected spec is none of the files beside it: its name is too short. -/
theorem not_isBeside_base {base : Path} {stem : String}
    (named : base.name = stem ++ Layout.specEnding) : ¬ IsBeside base stem base := by
  rintro ⟨text, same⟩
  have names := congrArg Path.name same
  rw [Path.name_child, named] at names
  have sizes := congrArg String.length names
  simp only [String.length_append, Layout.specEnding] at sizes
  have underscore : "_".length = 1 := rfl
  omega

/-- A name that ends like a spec file does not lead upwards. -/
theorem ne_dots (lead : String) : lead ++ "_spec.rb" ≠ ".." := by
  intro same
  have sizes := congrArg String.length same
  rw [String.length_append] at sizes
  have ending : "_spec.rb".length = 8 := rfl
  have dots : "..".length = 2 := rfl
  omega

/-- The search in the directory lists in ascending order exactly the entries with the right
names. -/
theorem wildcardPaths_eq (disk : Disk) {base : Path} {stem : String}
    (named : base.name = stem ++ Layout.specEnding)
    (single : hasDoubledStar stem.toList = false) :
    ∃ listed, wildcardPaths disk base = .ok listed ∧
      (listed.Pairwise fun left right => left.le right = true) ∧
      ∀ path, path ∈ listed ↔ IsFurther base stem path ∧ disk.exists? path = true := by
  rw [← hasDoubledStar_wildcard named] at single
  refine ⟨_, by rw [wildcardPaths, single]; rfl, Path.pairwise_mergeSort_le _, fun path => ?_⟩
  rw [List.mem_mergeSort, List.mem_map]
  simp only [List.mem_filter, matchSegment_wildcard named]
  constructor
  · rintro ⟨_, ⟨listed, front, text, matched, rfl⟩, rfl⟩
    refine ⟨⟨front, text, matched, rfl⟩, (Disk.exists?_child_iff (ne_dots _)).mpr ?_⟩
    -- only a directory lists anything
    split at listed
    next place placed =>
      split at listed
      next directory => exact ⟨place, placed, directory, listed⟩
      next => cases listed
    next => cases listed
  · rintro ⟨⟨front, text, matched, rfl⟩, there⟩
    obtain ⟨place, placed, directory, listed⟩ := (Disk.exists?_child_iff (ne_dots _)).mp there
    refine ⟨_, ⟨?_, front, text, matched, rfl⟩, rfl⟩
    simpa only [placed, directory, if_true] using listed

/-! ### The files that are taken in -/

variable {project : Project} {unit : String}

/-- A spec file that is there and describes the unit. -/
def Project.Describes (project : Project) (unit : String) (path : Path) : Prop :=
  project.disk.isFile path = true ∧ declaresUnit (project.specParsed path).root unit = true

theorem takeIn_taken {kept : List Path} {path : Path} (fresh : path ∉ kept)
    (describes : project.Describes unit path) :
    project.takeIn unit kept path = kept ++ [path] := by
  have unknown : ¬ kept.contains path = true := fun held =>
    fresh (List.contains_iff_mem.mp held)
  rw [Project.takeIn, if_neg unknown, if_pos]
  rw [Bool.and_eq_true]
  exact describes

theorem takeIn_left {kept : List Path} {path : Path}
    (left : ¬ (path ∉ kept ∧ project.Describes unit path)) :
    project.takeIn unit kept path = kept := by
  rw [Project.takeIn]
  split
  · rfl
  next unknown =>
    rw [if_neg]
    rw [Bool.and_eq_true]
    intro describes
    exact left ⟨fun held => unknown (List.contains_iff_mem.mpr held), describes⟩

/-- What is taken in over a list: the files of the list that describe the unit and were not there
before, each once and in the order of the list. -/
theorem foldl_takeIn (project : Project) (unit : String) (kept listed : List Path) :
    ∃ added, listed.foldl (project.takeIn unit) kept = kept ++ added ∧ added.Sublist listed ∧
      added.Nodup ∧
      ∀ path, path ∈ added ↔ path ∈ listed ∧ path ∉ kept ∧ project.Describes unit path := by
  induction listed generalizing kept with
  | nil => exact ⟨[], by simp⟩
  | cons path listed ih =>
    rw [List.foldl_cons]
    by_cases taken : path ∉ kept ∧ project.Describes unit path
    · obtain ⟨added, folded, sublist, once, members⟩ := ih (kept ++ [path])
      refine ⟨path :: added, ?_, sublist.cons_cons _, ?_, fun other => ?_⟩
      · rw [takeIn_taken taken.1 taken.2, folded, List.append_assoc]
        rfl
      · refine List.nodup_cons.mpr ⟨fun again => ?_, once⟩
        exact ((members path).mp again).2.1 (by simp)
      · rw [List.mem_cons, List.mem_cons, members, List.mem_append, List.mem_singleton]
        constructor
        · rintro (rfl | ⟨later, fresh, describes⟩)
          · exact ⟨.inl rfl, taken⟩
          · exact ⟨.inr later, fun held => fresh (.inl held), describes⟩
        · rintro ⟨rfl | later, fresh, describes⟩
          · exact .inl rfl
          · by_cases same : other = path
            · exact .inl same
            · exact .inr ⟨later, not_or.mpr ⟨fresh, same⟩, describes⟩
    · obtain ⟨added, folded, sublist, once, members⟩ := ih kept
      refine ⟨added, by rw [takeIn_left taken, folded], sublist.cons _, once, fun other => ?_⟩
      rw [members, List.mem_cons]
      constructor
      · rintro ⟨later, wanted⟩
        exact ⟨.inr later, wanted⟩
      · rintro ⟨rfl | later, wanted⟩
        · exact absurd wanted taken
        · exact ⟨later, wanted⟩

theorem mem_ownSpecs {base path : Path} :
    path ∈ project.ownSpecs base ↔ path = base ∧ project.disk.isFile base = true := by
  unfold Project.ownSpecs
  split
  next file => simp [file]
  next missing => simp [missing]

/-- Without a name for the unit only the expected spec counts. -/
theorem located_unnamed {source base : Path} (expected : Layout.expectedSpec? source = some base) :
    project.located source (some "") = .ok ⟨some base, project.ownSpecs base⟩ := by
  have answers : Cache.Answers project (locate project source (some "")).run
      (.ok ⟨some base, project.ownSpecs base⟩) := by
    unfold locate
    rw [expected]
    exact (answers_own base).bindExcept (Cache.answers_pure _)
  exact answers.eq_empty

theorem located_unexpected {source : Path} (expected : Layout.expectedSpec? source = none)
    (unit : Option String) : project.located source unit = .ok ⟨none, []⟩ := by
  unfold Project.located locate
  rw [expected]
  rfl

/-- Two stars in a row make the search fail for every unit with a name. -/
theorem located_doubledStar (project : Project) {source base : Path}
    (expected : Layout.expectedSpec? source = some base)
    (doubled : hasDoubledStar source.stem.toList = true) (named : unit ≠ "") :
    project.located source (some unit) = .error .doubledStar := by
  have answered := (answers_locate_named project expected named).eq_empty
  rw [← hasDoubledStar_wildcard (Layout.name_of_expectedSpec? expected)] at doubled
  rw [wildcardPaths, if_pos doubled] at answered
  exact answered

/-- Otherwise the files of a named unit are the expected spec, if it is a file, and then in
ascending order the further files that describe the unit. -/
theorem located_single (project : Project) {source base : Path}
    (expected : Layout.expectedSpec? source = some base)
    (single : hasDoubledStar source.stem.toList = false) (named : unit ≠ "") :
    ∃ further, project.located source (some unit) =
        .ok ⟨some base, project.ownSpecs base ++ further⟩ ∧
      (project.ownSpecs base ++ further).Nodup ∧
      (further.Pairwise fun left right => left.le right = true) ∧
      ∀ path, path ∈ further ↔ IsFurther base source.stem path ∧
        path ∉ project.ownSpecs base ∧ project.Describes unit path := by
  have name := Layout.name_of_expectedSpec? expected
  obtain ⟨listed, found, ascending, further'⟩ := wildcardPaths_eq project.disk name single
  obtain ⟨further, folded, sublist, once, members⟩ := foldl_takeIn project unit
    (project.ownSpecs base) listed
  refine ⟨further, ?_, ?_, ascending.sublist sublist, fun path => ?_⟩
  · have answered := (answers_locate_named project expected named).eq_empty
    rw [found, Except.map, folded] at answered
    exact answered
  · rw [List.nodup_append]
    refine ⟨?_, once, ?_⟩
    · unfold Project.ownSpecs
      split <;> simp
    · rintro first held second later rfl
      exact ((members first).mp later).2.1 held
  · rw [members]
    constructor
    · rintro ⟨member, wanted⟩
      exact ⟨((further' path).mp member).1, wanted⟩
    · rintro ⟨placed, fresh, describes⟩
      have there := Disk.exists?_of_isFile describes.1
      exact ⟨(further' path).mpr ⟨placed, there⟩, fresh, describes⟩

/-- The files of a named unit of a source file without wildcard signs in its stem. -/
theorem located_named (project : Project) {source base : Path}
    (expected : Layout.expectedSpec? source = some base)
    (plain : Glob.IsPlain source.stem.toList) (named : unit ≠ "") :
    ∃ further, project.located source (some unit) =
        .ok ⟨some base, project.ownSpecs base ++ further⟩ ∧
      (project.ownSpecs base ++ further).Nodup ∧
      (further.Pairwise fun left right => left.le right = true) ∧
      ∀ path, path ∈ further ↔ IsBeside base source.stem path ∧ project.Describes unit path := by
  obtain ⟨further, found, once, ascending, members⟩ :=
    located_single project expected (hasDoubledStar_of_isPlain plain) named
  refine ⟨further, found, once, ascending, fun path => ?_⟩
  rw [members, isFurther_iff_isBeside plain]
  constructor
  · rintro ⟨placed, _, describes⟩
    exact ⟨placed, describes⟩
  · rintro ⟨placed, describes⟩
    refine ⟨placed, fun held => ?_, describes⟩
    rw [(mem_ownSpecs.mp held).1] at placed
    exact not_isBeside_base (Layout.name_of_expectedSpec? expected) placed

/-- A spec file of a unit of a source file: the expected one, or a further one that describes the
unit, if that has a name. -/
def Project.IsSpecOf (project : Project) (source : Path) (unit : String) (path : Path) : Prop :=
  ∃ base, Layout.expectedSpec? source = some base ∧
    (path = base ∧ project.disk.isFile base = true ∨
      unit ≠ "" ∧ IsFurther base source.stem path ∧ project.Describes unit path)

/-- What is located are the spec files of the unit, each once. -/
theorem exists_located (project : Project) {source base : Path}
    (expected : Layout.expectedSpec? source = some base)
    (fits : unit = "" ∨ hasDoubledStar source.stem.toList = false) :
    ∃ candidates, project.located source (some unit) = .ok candidates ∧
      candidates.base = some base ∧ candidates.paths.Nodup ∧
      ∀ path, path ∈ candidates.paths ↔ project.IsSpecOf source unit path := by
  have based (path : Path) : project.IsSpecOf source unit path ↔
      path = base ∧ project.disk.isFile base = true ∨
        unit ≠ "" ∧ IsFurther base source.stem path ∧ project.Describes unit path := by
    simp [Project.IsSpecOf, expected]
  by_cases unnamed : unit = ""
  · subst unnamed
    refine ⟨_, located_unnamed expected, rfl, ?_, fun path => ?_⟩
    · unfold Project.ownSpecs
      split <;> simp
    · rw [based, mem_ownSpecs]
      simp
  · have single := fits.resolve_left unnamed
    obtain ⟨further, found, once, -, members⟩ := located_single project expected single unnamed
    refine ⟨_, found, rfl, once, fun path => ?_⟩
    rw [based, List.mem_append, members, mem_ownSpecs]
    by_cases own : path = base ∧ project.disk.isFile base = true
    · simp [own]
    · simp [own, unnamed]

/-- Whatever looks for spec files can fail in one way only. -/
theorem eq_error_of_fails {α : Type} {outcome : Except WildcardFault α} (failed : Fails outcome) :
    outcome = .error .doubledStar := by
  obtain ⟨fault, rfl⟩ := failed
  cases fault
  rfl

/-- Locating fails exactly for a unit with a name if the stem has two stars in a row. -/
theorem located_eq_error_iff (project : Project) {source base : Path}
    (expected : Layout.expectedSpec? source = some base) (fault : WildcardFault) :
    project.located source (some unit) = .error fault ↔
      unit ≠ "" ∧ hasDoubledStar source.stem.toList = true := by
  by_cases fits : unit = "" ∨ hasDoubledStar source.stem.toList = false
  · obtain ⟨candidates, found, -⟩ := exists_located project expected fits
    rw [found]
    simp only [reduceCtorEq, false_iff, not_and, Bool.not_eq_true]
    exact fun named => fits.resolve_left named
  · obtain ⟨named, doubled⟩ := not_or.mp fits
    rw [Bool.not_eq_false] at doubled
    cases fault
    simp [located_doubledStar project expected doubled named, named, doubled]

end Spec

end SpecLint
