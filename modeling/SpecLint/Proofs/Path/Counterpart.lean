import SpecLint.Proofs.Path.Spelling
import Mathlib.Data.List.TakeWhile

/-!
# A source file and its spec

The spec of a source file lies where the file does, but for one segment above it and for its name:
the source root becomes the spec root, and the name ends as spec files end. The segment is never
the name itself, so these are two changes, and both can be undone once it is known where the
source root stands.

## Main result

`expectedSpec?_counterpart`: the expected spec mirrors its source, has no spec of its own, and leads
back to its source.
-/
namespace SpecLint

/-! ### Names and parts -/

namespace Path

/-- What comes before the last dot of a name, the dot, and the rest. -/
theorem exists_before_last_dot {name : List Char} (dotted : '.' ∈ name) :
    ∃ before, name = before ++ '.' :: (name.reverse.takeWhile (· ≠ '.')).reverse := by
  have whole := List.takeWhile_append_dropWhile (p := fun c : Char => decide (c ≠ '.'))
    (l := name.reverse)
  cases rest : name.reverse.dropWhile fun c => decide (c ≠ '.') with
  | nil =>
    -- a name without a part that begins with a dot has none
    rw [rest, List.append_nil] at whole
    have kept := List.takeWhile_eq_self_iff.mp whole '.' (List.mem_reverse.mpr dotted)
    simp at kept
  | cons dot before =>
    have isDot : dot = '.' := by
      have stops := List.head_dropWhile_not (fun c : Char => decide (c ≠ '.'))
        (l := name.reverse) (by rw [rest]; simp)
      simp only [rest, List.head_cons] at stops
      simpa using stops
    rw [rest, isDot] at whole
    refine ⟨before.reverse, ?_⟩
    have seen := congrArg List.reverse whole
    rw [List.reverse_append, List.reverse_cons, List.append_assoc, List.reverse_reverse] at seen
    exact seen.symm

/-- The two parts of a cut name make up the name. -/
theorem cutSuffix_append (name : List Char) : (cutSuffix name).1 ++ (cutSuffix name).2 = name := by
  unfold cutSuffix
  dsimp only
  split
  next cut =>
    obtain ⟨before, split⟩ := exists_before_last_dot cut.1
    generalize (name.reverse.takeWhile (· ≠ '.')).reverse = after at split ⊢
    have size : name.length - after.length - 1 = before.length := by
      rw [split, List.length_append, List.length_cons]
      omega
    have front : name.take before.length = before := by
      rw [split, List.take_left]
    rw [size, front]
    exact split.symm
  next => exact List.append_nil name

theorem stem_append_suffix (path : Path) : path.stem ++ path.suffix = path.name := by
  rw [stem, suffix, ← String.ofList_append, cutSuffix_append, String.ofList_toList]

theorem IsName.isSegment {name : String} (isName : IsName name) : IsSegment name := by
  obtain ⟨-, -, noSlash⟩ := isName
  constructor <;> rintro rfl <;> exact noSlash (by decide)

/-- A clean path is told by its parts. -/
theorem Clean.ofParts_parts {path : Path} (clean : path.Clean) : ofParts path.parts = path := by
  obtain ⟨root, segments⟩ := path
  have names := clean.names
  rcases clean.root with rfl | rfl | rfl
  · cases segments with
    | nil => rfl
    | cons first rest => exact ofParts_cons (names first List.mem_cons_self).isSegment rest
  · rfl
  · rfl

theorem Clean.eq_of_parts_eq {left right : Path} (leftClean : left.Clean) (rightClean : right.Clean)
    (same : left.parts = right.parts) : left = right := by
  rw [← leftClean.ofParts_parts, same, rightClean.ofParts_parts]

end Path

namespace Layout

/-! ### The root segment -/

theorem rootIndex?_isRoot {roots : List String} {path : Path} {index : Nat}
    (found : rootIndex? roots path = some index) :
    ∃ root ∈ roots, path.parts.dropLast[index]? = some root := by
  have isRoot : path.parts.dropLast[index]?.elim false roots.contains = true := by
    simp only [rootIndex?] at found
    rcases Option.or_eq_some_iff.mp found with covered | ⟨-, last⟩
    · have both := (lastIndex?_lt covered).2
      rw [Bool.and_eq_true] at both
      exact both.1
    · exact (lastIndex?_lt last).2
  cases part : path.parts.dropLast[index]? with
  | none => simp [part] at isRoot
  | some root => exact ⟨root, by simpa [part] using isRoot, rfl⟩

/-- The parts around the root segment of a source file. -/
theorem parts_of_rootIndex? {source : Path} {index : Nat}
    (found : rootIndex? [sourceRoot] source = some index) :
    ∃ above below, above.length = index ∧
      source.parts = above ++ sourceRoot :: below ++ [source.name] := by
  obtain ⟨root, isRoot, part⟩ := rootIndex?_isRoot found
  obtain rfl : root = sourceRoot := by simpa using isRoot
  have inside : index < source.parts.dropLast.length := (List.getElem?_eq_some_iff.mp part).1
  have cut : source.parts.dropLast = source.parts.dropLast.take index ++
      sourceRoot :: source.parts.dropLast.drop (index + 1) := by
    rw [← (List.getElem?_eq_some_iff.mp part).2, ← List.drop_eq_getElem_cons inside,
      List.take_append_drop]
  have several : source.parts.dropLast ≠ [] := List.ne_nil_of_length_pos (by omega)
  have nonempty : source.parts ≠ [] := fun empty => several (by rw [empty, List.dropLast_nil])
  have ends := (List.dropLast_concat_getLast nonempty).symm
  have named := Path.name_of_parts several ends
  refine ⟨source.parts.dropLast.take index, source.parts.dropLast.drop (index + 1),
    List.length_take_of_le (Nat.le_of_lt inside), ?_⟩
  rw [← cut, named]
  exact ends

/-! ### The expected spec -/

theorem name_of_isSource {source : Path} (isSource : isSource source = true) :
    source.name = source.stem ++ rubySuffix := by
  simp only [Layout.isSource, Bool.and_eq_true, beq_iff_eq] at isSource
  rw [← isSource.2, Path.stem_append_suffix]

/-- A source file and its spec: the same directories above the root segment and below it, and names
with the same stem. -/
structure Counterparts (source spec : Path) (above below : List String) : Prop where
  sourceParts : source.parts = above ++ sourceRoot :: below ++ [source.stem ++ rubySuffix]
  specParts : spec.parts = above ++ specRoot :: below ++ [source.stem ++ specEnding]
  rootIndex : rootIndex? [sourceRoot] source = some above.length

theorem exists_counterparts {source spec : Path} (expected : expectedSpec? source = some spec) :
    ∃ above below, Counterparts source spec above below := by
  unfold expectedSpec? at expected
  split at expected
  next isSource =>
    obtain ⟨index, found, rfl⟩ := Option.map_eq_some_iff.mp expected
    obtain ⟨above, below, rfl, parts⟩ := parts_of_rootIndex? found
    have moved : (source.parts.set above.length specRoot).dropLast =
        above ++ specRoot :: below := by
      rw [parts, List.append_assoc, List.set_append_right _ _ (Nat.le_refl _), Nat.sub_self,
        List.cons_append, List.set_cons_zero, ← List.cons_append, ← List.append_assoc,
        List.dropLast_concat]
    refine ⟨above, below, ?_, ?_, found⟩
    · rw [← name_of_isSource isSource]
      exact parts
    · rw [Path.parts_ofParts, moved]
  next => cases expected

namespace Counterparts

variable {source spec : Path} {above below : List String}

theorem length_parts (pair : Counterparts source spec above below) :
    spec.parts.length = source.parts.length := by
  simp [pair.sourceParts, pair.specParts]

theorem specName (pair : Counterparts source spec above below) :
    spec.name = source.stem ++ specEnding :=
  Path.name_of_parts (by simp) pair.specParts

theorem isSpecFile (pair : Counterparts source spec above below) : isSpecFile spec = true := by
  rw [Layout.isSpecFile, String.endsWith_eq_endsWith_toSlice, String.Slice.endsWith_string_iff,
    String.copy_toSlice, pair.specName, String.toList_append]
  exact List.suffix_append ..

/-- Without its ending the name of the spec is the stem of the source. -/
theorem take_specName (pair : Counterparts source spec above below) :
    String.ofList (spec.name.toList.take (spec.name.toList.length - specEnding.toList.length)) =
      source.stem := by
  rw [pair.specName, String.toList_append, List.length_append, Nat.add_sub_cancel, List.take_left,
    String.ofList_toList]

theorem not_isSource (pair : Counterparts source spec above below) : isSource spec = false := by
  simp [isSource, pair.isSpecFile]

/-- Two sources of one spec have the same parts if their root segments stand at the same place. -/
theorem parts_eq {other : Path} {above' below' : List String}
    (pair : Counterparts source spec above below) (pair' : Counterparts other spec above' below')
    (aligned : rootIndex? [sourceRoot] other = rootIndex? [sourceRoot] source) :
    other.parts = source.parts := by
  have sizes : above'.length = above.length := by
    rw [pair.rootIndex, pair'.rootIndex] at aligned
    exact Option.some.inj aligned
  -- the spec holds all parts of either source but the root segment
  have parts := pair'.specParts.symm.trans pair.specParts
  rw [List.append_assoc, List.append_assoc] at parts
  obtain ⟨rfl, behind⟩ := List.append_inj parts sizes
  obtain ⟨-, behind⟩ := List.cons.inj behind
  obtain ⟨rfl, names⟩ := List.append_inj' behind rfl
  have stems : other.stem = source.stem := by
    rw [← pair'.take_specName, pair.take_specName]
  rw [pair.sourceParts, pair'.sourceParts, stems]

end Counterparts

/-- The expected spec is named after the source. -/
theorem name_of_expectedSpec? {source spec : Path} (expected : expectedSpec? source = some spec) :
    spec.name = source.stem ++ specEnding := by
  obtain ⟨above, below, pair⟩ := exists_counterparts expected
  exact pair.specName

/-! ### The result -/

/-- The expected spec of a file has as many parts as the file and differs from it in the root
segment and the name only; it is a spec file, is not checked, and has no spec of its own. Without
its ending its name is the stem of the file, and no other file with the root segment at the same
place has the same spec. Every file that is checked has such a spec. -/
theorem expectedSpec?_counterpart {source : Path} (clean : source.Clean) :
    (isCheckable source = true → ∃ spec, expectedSpec? source = some spec) ∧
    ∀ spec, expectedSpec? source = some spec →
      (∃ above below, rootIndex? [sourceRoot] source = some above.length ∧
        source.parts = above ++ "app" :: below ++ [source.stem ++ ".rb"] ∧
        spec.parts = above ++ "spec" :: below ++ [source.stem ++ "_spec.rb"]) ∧
      spec.parts.length = source.parts.length ∧
      isSpecFile spec = true ∧ isCheckable spec = false ∧ expectedSpec? spec = none ∧
      String.ofList (spec.name.toList.take (spec.name.toList.length - specEnding.toList.length)) =
        source.stem ∧
      ∀ other : Path, other.Clean →
        rootIndex? [sourceRoot] other = rootIndex? [sourceRoot] source →
        expectedSpec? other = some spec → other = source := by
  refine ⟨?_, ?_⟩
  · intro checkable
    exact Option.isSome_iff_exists.mp (expectedSpec?_isSome checkable)
  · intro spec expected
    obtain ⟨above, below, pair⟩ := exists_counterparts expected
    refine ⟨⟨above, below, pair.rootIndex, pair.sourceParts, pair.specParts⟩, pair.length_parts,
      pair.isSpecFile, ?_, expectedSpec?_specFile pair.isSpecFile, pair.take_specName, ?_⟩
    · simp [isCheckable, pair.not_isSource]
    · intro other cleanOther aligned expectedOther
      obtain ⟨above', below', pair'⟩ := exists_counterparts expectedOther
      exact cleanOther.eq_of_parts_eq clean (pair.parts_eq pair' aligned)

/-- A file below a covered directory, with another source root further down and two dots in its
name. -/
def nestedSource : Path := Path.ofString "lib/app/models/app/user.v2.rb"

def nestedSpec : Path := Path.ofString "lib/spec/models/app/user.v2_spec.rb"

theorem expectedSpec?_counterpart_nested :
    nestedSource.Clean ∧ isCheckable nestedSource = true ∧
      expectedSpec? nestedSource = some nestedSpec ∧
      rootIndex? [sourceRoot] (Path.ofString "lib//app/./models/app/user.v2.rb") =
        rootIndex? [sourceRoot] nestedSource ∧
      expectedSpec? (Path.ofString "lib//app/./models/app/user.v2.rb") = some nestedSpec ∧
      Path.ofString "lib//app/./models/app/user.v2.rb" = nestedSource ∧
      expectedSpec? nestedSpec = none := by
  have clean : nestedSource.Clean := Path.clean_ofString _
  have checkable : isCheckable nestedSource = true := by decide +kernel
  have expected : expectedSpec? nestedSource = some nestedSpec := by decide +kernel
  have aligned : rootIndex? [sourceRoot] (Path.ofString "lib//app/./models/app/user.v2.rb") =
      rootIndex? [sourceRoot] nestedSource := by decide +kernel
  have again : expectedSpec? (Path.ofString "lib//app/./models/app/user.v2.rb") =
      some nestedSpec := by decide +kernel
  obtain ⟨-, -, -, -, unchecked, -, once⟩ :=
    (expectedSpec?_counterpart clean).2 nestedSpec expected
  exact ⟨clean, checkable, expected, aligned, again, once _ (Path.clean_ofString _) aligned again,
    unchecked⟩

end Layout

end SpecLint
