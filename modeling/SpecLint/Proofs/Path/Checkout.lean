import SpecLint.Path.Layout

/-!
# A project below any directory

The directories a project is checked out under only put parts in front of its own. The root segment
of a checkable path is the last `app` directly above a covered directory, so it is found from
behind, and no part in front of the project can take its place: not even another `app`, alone or
above a covered directory of its own.

## Main result

`checkout_independent`: a checkable file has the same expected spec and is named the same way
wherever its project lies.
-/
namespace SpecLint

/-! ### Parts -/

namespace Path

theorem parts_ofParts (parts : List String) : (ofParts parts).parts = parts := by
  cases parts with
  | nil => rfl
  | cons first rest =>
    simp only [ofParts]
    split
    next slashes => rcases slashes with rfl | rfl <;> rfl
    next => rfl

theorem root_ofString (written : String) :
    (ofString written).root = "" ∨ (ofString written).root = "/" ∨
      (ofString written).root = "//" := by
  simp only [ofString]
  split
  · exact .inl rfl
  · split
    · exact .inr (.inr rfl)
    · exact .inr (.inl rfl)

/-- Slashes separate the segments of a path and are in none of them. -/
theorem slash_not_mem_of_mem_segments {written segment : String}
    (member : segment ∈ (ofString written).segments) : '/' ∉ segment.toList := by
  obtain ⟨piece, kept, rfl⟩ := List.mem_map.mp member
  rw [String.toList_ofList]
  exact Text.not_mem_of_mem_splitOn '/' _ piece (List.mem_filter.mp kept).1

/-- A part that cannot be taken for the root of a path. -/
def IsSegment (part : String) : Prop := part ≠ "/" ∧ part ≠ "//"

instance (part : String) : Decidable (IsSegment part) :=
  inferInstanceAs (Decidable (part ≠ "/" ∧ part ≠ "//"))

theorem isSegment_of_mem_segments {written segment : String}
    (member : segment ∈ (ofString written).segments) : IsSegment segment := by
  have clean := slash_not_mem_of_mem_segments member
  constructor <;> rintro rfl <;> exact clean (by decide)

theorem ofParts_cons {first : String} (segment : IsSegment first) (rest : List String) :
    ofParts (first :: rest) = ⟨"", first :: rest⟩ := by
  simp [ofParts, segment.1, segment.2]

theorem div_relative (above : Path) (segments : List String) :
    above / (⟨"", segments⟩ : Path) = ⟨above.root, above.segments ++ segments⟩ := rfl

/-- Parts behind the parts of a path continue it. -/
theorem ofParts_parts_append (above : String) {first : String} (segment : IsSegment first)
    (rest : List String) :
    ofParts ((ofString above).parts ++ first :: rest) =
      ofString above / ofParts (first :: rest) := by
  rw [ofParts_cons segment, div_relative, parts]
  split
  next relative =>
    rw [relative]
    cases segments : (ofString above).segments with
    | nil => exact ofParts_cons segment rest
    | cons highest others =>
      exact ofParts_cons (isSegment_of_mem_segments (segments ▸ List.mem_cons_self)) _
  next rooted => exact if_pos ((root_ofString above).resolve_left rooted)

theorem parts_div (above : Path) {path : Path} (relative : path.isAbsolute = false) :
    (above / path).parts = above.parts ++ path.parts := by
  obtain ⟨root, segments⟩ := path
  obtain rfl : root = "" := by simpa [isAbsolute] using relative
  rw [div_relative, parts_relative]
  simp only [parts]
  split <;> simp_all

/-- A relative path written out from its root segment on. -/
theorem toString_ofParts {root : String} (segment : IsSegment root) {below : List String}
    (nonempty : below ≠ []) (name : String) : (ofParts (root :: below ++ [name])).toString =
      root ++ "/" ++ "/".intercalate below ++ "/" ++ name := by
  rw [List.cons_append, ofParts_cons segment, ← List.cons_append, toString,
    if_neg (by simp), String.intercalate_append_of_ne_nil (by simp) (by simp),
    String.intercalate_cons_of_ne_nil nonempty, String.intercalate_singleton, String.empty_append]

/-- The last part names a path. -/
theorem name_of_parts {path : Path} {before : List String} {last : String}
    (several : before ≠ []) (parts : path.parts = before ++ [last]) : path.name = last := by
  obtain ⟨root, segments⟩ := path
  simp only [Path.parts] at parts
  split at parts
  next => simp [Path.name, parts]
  next =>
    obtain ⟨first, rest, rfl⟩ := List.exists_cons_of_ne_nil several
    obtain ⟨-, rfl⟩ := List.cons.inj parts
    simp [Path.name]

end Path

namespace Layout

/-! ### The root segment -/

theorem lastIndex?_succ (size : Nat) (test : Nat → Bool) :
    lastIndex? (size + 1) test = if test size then some size else lastIndex? size test := by
  rw [lastIndex?, List.range_succ, List.reverse_append, List.reverse_singleton,
    List.singleton_append, List.find?_cons]
  cases test size <;> rfl

theorem lastIndex?_eq_some {size index : Nat} {test : Nat → Bool} (inside : index < size)
    (passes : test index = true)
    (last : ∀ later, index < later → later < size → test later = false) :
    lastIndex? size test = some index := by
  induction size with
  | zero => omega
  | succ size ih =>
    rw [lastIndex?_succ]
    rcases Nat.lt_or_eq_of_le (Nat.le_of_lt_succ inside) with before | rfl
    · rw [last size before (Nat.lt_succ_self size), if_neg Bool.false_ne_true]
      exact ih before fun later behind bound => last later behind (Nat.lt_succ_of_lt bound)
    · rw [if_pos passes]

theorem lastIndex?_last {size index later : Nat} {test : Nat → Bool}
    (found : lastIndex? size test = some index) (behind : index < later) (inside : later < size) :
    test later = false := by
  induction size with
  | zero => omega
  | succ size ih =>
    rw [lastIndex?_succ] at found
    split at found
    next =>
      have same : size = index := Option.some.inj found
      omega
    next failed =>
      rcases Nat.lt_or_eq_of_le (Nat.le_of_lt_succ inside) with before | rfl
      · exact ih found before
      · simpa using failed

theorem lastIndex?_eq_none {size index : Nat} {test : Nat → Bool}
    (missing : lastIndex? size test = none) (inside : index < size) : test index = false := by
  have none := List.find?_eq_none.mp missing index (by simpa using inside)
  simpa using none

/-- A source root at `index`, directly above a covered directory. -/
def isPreferred (directories : List String) (index : Nat) : Bool :=
  directories[index]?.elim false [sourceRoot].contains &&
    directories[index + 1]?.elim false coveredDirectories.contains

theorem isPreferred_append (above directories : List String) (index : Nat) :
    isPreferred (above ++ directories) (above.length + index) = isPreferred directories index := by
  rw [isPreferred, isPreferred, Nat.add_assoc,
    List.getElem?_append_right (Nat.le_add_right _ _),
    List.getElem?_append_right (Nat.le_add_right _ _), Nat.add_sub_cancel_left,
    Nat.add_sub_cancel_left]

theorem rootIndex?_eq (path : Path) :
    rootIndex? [sourceRoot] path =
      (lastIndex? path.parts.dropLast.length (isPreferred path.parts.dropLast)).or
        (lastIndex? path.parts.dropLast.length
          fun index => path.parts.dropLast[index]?.elim false [sourceRoot].contains) := rfl

/-- A file and its project: the directories `above` lead to the project, the directories `below`
its source root to the file. The first of these is covered, and no other source root stands
directly above a covered directory. -/
structure InProject (path : Path) (above below : List String) : Prop where
  parts : path.parts = (above ++ sourceRoot :: below) ++ [path.name]
  covered : ∃ directory ∈ coveredDirectories, below.head? = some directory
  last : ∀ index, 0 < index → isPreferred (sourceRoot :: below) index = false

theorem isPreferred_of_length_le {directories : List String} {index : Nat}
    (outside : directories.length ≤ index) : isPreferred directories index = false := by
  rw [isPreferred, List.getElem?_eq_none outside]
  rfl

/-- The file of a checkable path lies below a root segment that the search for such segments above
covered directories finds. -/
theorem exists_preferred {path : Path} (checkable : isCheckable path = true) :
    ∃ index, lastIndex? path.parts.dropLast.length (isPreferred path.parts.dropLast) =
      some index := by
  simp only [isCheckable, Bool.and_eq_true] at checkable
  obtain ⟨-, checkable⟩ := checkable
  cases found : rootIndex? [sourceRoot] path with
  | none => simp [found] at checkable
  | some index =>
    simp only [found, Bool.and_eq_true, decide_eq_true_eq] at checkable
    obtain ⟨inside, covered⟩ := checkable
    rw [rootIndex?_eq, Option.or_eq_some_iff] at found
    rcases found with preferred | ⟨missing, fallback⟩
    · exact ⟨index, preferred⟩
    -- a covered directory below the last root of all makes it a preferred one
    · obtain ⟨below, root⟩ := lastIndex?_lt fallback
      have failed := lastIndex?_eq_none missing below
      have next : index + 1 < path.parts.length - 1 := by omega
      rw [isPreferred, root, List.getElem?_dropLast, if_pos next, covered] at failed
      cases failed

/-- Every checkable file lies in a project. -/
theorem exists_inProject {path : Path} (checkable : isCheckable path = true) :
    ∃ above below, InProject path above below := by
  obtain ⟨index, found⟩ := exists_preferred checkable
  obtain ⟨inside, preferred⟩ := lastIndex?_lt found
  have several : path.parts.dropLast ≠ [] := List.ne_nil_of_length_pos (by omega)
  have named : path.parts = path.parts.dropLast ++ [path.name] := by
    have nonempty : path.parts ≠ [] := fun empty => several (by rw [empty, List.dropLast_nil])
    have ends := (List.dropLast_concat_getLast nonempty).symm
    rw [Path.name_of_parts several ends]
    exact ends
  generalize path.parts.dropLast = directories at *
  simp only [isPreferred, Bool.and_eq_true, List.getElem?_eq_getElem inside, Option.elim_some,
    List.contains_iff_mem, List.mem_singleton] at preferred
  have cut : directories =
      directories.take index ++ sourceRoot :: directories.drop (index + 1) := by
    rw [← preferred.1, ← List.drop_eq_getElem_cons inside, List.take_append_drop]
  refine ⟨directories.take index, directories.drop (index + 1), ?_, ?_, ?_⟩
  · rw [← cut]
    exact named
  · have covered := preferred.2
    rw [List.head?_drop]
    cases next : directories[index + 1]? with
    | none => simp [next] at covered
    | some directory => exact ⟨directory, by simpa [next] using covered, rfl⟩
  · intro later behind
    have same := isPreferred_append (directories.take index)
      (sourceRoot :: directories.drop (index + 1)) later
    rw [← cut, List.length_take_of_le (Nat.le_of_lt inside)] at same
    rw [← same]
    by_cases bound : index + later < directories.length
    · exact lastIndex?_last found (Nat.lt_add_of_pos_right behind) bound
    · exact isPreferred_of_length_le (Nat.le_of_not_lt bound)

namespace InProject

variable {path : Path} {above below : List String}

theorem parts_moved (inProject : InProject path above below) (relative : path.isAbsolute = false)
    (base : Path) :
    (base / path).parts = (base.parts ++ above ++ sourceRoot :: below) ++ [path.name] := by
  rw [Path.parts_div base relative, inProject.parts]
  simp only [List.append_assoc]

theorem name_moved (inProject : InProject path above below) (relative : path.isAbsolute = false)
    (base : Path) : (base / path).name = path.name :=
  Path.name_of_parts (by simp) (inProject.parts_moved relative base)

/-- Checked out elsewhere, the project has more directories above it. -/
theorem moved (inProject : InProject path above below) (relative : path.isAbsolute = false)
    (base : Path) : InProject (base / path) (base.parts ++ above) below where
  parts := by rw [inProject.parts_moved relative base, inProject.name_moved relative base]
  covered := inProject.covered
  last := inProject.last

/-- The last root segment is found wherever the project lies. -/
theorem rootIndex? (inProject : InProject path above below) :
    rootIndex? [sourceRoot] path = some above.length := by
  obtain ⟨directory, covered, first⟩ := inProject.covered
  have directories : path.parts.dropLast = above ++ sourceRoot :: below := by
    rw [inProject.parts, List.dropLast_concat]
  have preferred : lastIndex? (above ++ sourceRoot :: below).length
      (isPreferred (above ++ sourceRoot :: below)) = some above.length := by
    apply lastIndex?_eq_some
    · simp
    · have here := isPreferred_append above (sourceRoot :: below) 0
      rw [Nat.add_zero] at here
      rw [here]
      simp [isPreferred, ← List.head?_eq_getElem?, first, covered]
    · intro later behind inside
      obtain ⟨index, rfl⟩ := Nat.exists_eq_add_of_lt behind
      rw [Nat.add_assoc, isPreferred_append]
      exact inProject.last _ (Nat.succ_pos index)
  rw [rootIndex?_eq, directories, preferred, Option.some_or]

theorem isCheckable (inProject : InProject path above below) (source : isSource path = true) :
    isCheckable path = true := by
  obtain ⟨directory, covered, first⟩ := inProject.covered
  obtain ⟨rest, rfl⟩ : ∃ rest, below = directory :: rest := by
    cases below with
    | nil => cases first
    | cons head rest => exact ⟨rest, by rw [Option.some.inj first]⟩
  simp [Layout.isCheckable, source, inProject.rootIndex?, inProject.parts, covered]

/-- The expected spec lies where the file does, below the spec root in place of the source root. -/
theorem expectedSpec? (inProject : InProject path above below) (source : isSource path = true) :
    expectedSpec? path =
      some (Path.ofParts (above ++ (specRoot :: below ++ [path.stem ++ specEnding]))) := by
  have replaced : (path.parts.set above.length specRoot).dropLast = above ++ specRoot :: below := by
    rw [inProject.parts, List.append_assoc, List.set_append_right _ _ (Nat.le_refl _),
      Nat.sub_self, List.cons_append, List.set_cons_zero, ← List.cons_append, ← List.append_assoc,
      List.dropLast_concat]
  rw [Layout.expectedSpec?, if_pos source, inProject.rootIndex?, Option.map_some]
  simp only [replaced, List.append_assoc]

theorem below_ne_nil (inProject : InProject path above below) : below ≠ [] := by
  obtain ⟨directory, -, first⟩ := inProject.covered
  rintro rfl
  cases first

theorem appRelative (inProject : InProject path above below) :
    appRelative path = sourceRoot ++ "/" ++ "/".intercalate below ++ "/" ++ path.name := by
  have behind : path.parts.drop above.length = sourceRoot :: below ++ [path.name] := by
    rw [inProject.parts, List.append_assoc, List.drop_left]
  rw [Layout.appRelative, belowOwnRoot, inProject.rootIndex?]
  change cutAt path above.length = _
  rw [cutAt, behind]
  exact Path.toString_ofParts (by decide) inProject.below_ne_nil path.name

/-- A spec is cut where the source root of its file stands. -/
theorem projectRelative (inProject : InProject path above below) (name : String) :
    projectRelative (Path.ofParts (above ++ (specRoot :: below ++ [name]))) (some path) =
      specRoot ++ "/" ++ "/".intercalate below ++ "/" ++ name := by
  have parts := Path.parts_ofParts (above ++ (specRoot :: below ++ [name]))
  have aligned : (Path.ofParts (above ++ (specRoot :: below ++ [name]))).parts.take above.length =
      path.parts.take above.length := by
    rw [parts, inProject.parts, List.append_assoc, List.take_left, List.take_left]
  rw [Layout.projectRelative]
  simp only [inProject.rootIndex?]
  rw [if_pos aligned, cutAt, parts, List.drop_left]
  exact Path.toString_ofParts (by decide) inProject.below_ne_nil name

/-- The parts of a relative expected spec do not start with a root. -/
theorem exists_specParts {written : String}
    (inProject : InProject (Path.ofString written) above below)
    (relative : (Path.ofString written).isAbsolute = false) (name : String) :
    ∃ first rest, Path.IsSegment first ∧
      above ++ (specRoot :: below ++ [name]) = first :: rest := by
  cases above with
  | nil => exact ⟨specRoot, below ++ [name], by decide, rfl⟩
  | cons highest others =>
    refine ⟨highest, _, ?_, rfl⟩
    have unrooted : (Path.ofString written).root = "" := by simpa [Path.isAbsolute] using relative
    have parts := inProject.parts
    rw [Path.parts, if_pos unrooted] at parts
    have member : highest ∈ (Path.ofString written).segments := by
      rw [parts]
      exact List.mem_cons_self
    exact Path.isSegment_of_mem_segments member

end InProject

/-! ### The result -/

theorem isSource_congr {first second : Path} (named : first.name = second.name) :
    isSource first = isSource second := by
  simp only [isSource, isSpecFile, Path.suffix, named]

/-- Wherever a project is checked out, the paths in it resolve the same: a checkable path stays
checkable below any directory, its expected spec lies below the same directory, and both are named
as they are without it, the spec below `spec` as the file is below `app`. -/
theorem checkout_independent (above written : String)
    (relative : (Path.ofString written).isAbsolute = false)
    (checkable : isCheckable (Path.ofString written) = true) :
    isCheckable (Path.ofString above / Path.ofString written) = true ∧
    appRelative (Path.ofString above / Path.ofString written) =
      appRelative (Path.ofString written) ∧
    ∃ spec, expectedSpec? (Path.ofString written) = some spec ∧
      expectedSpec? (Path.ofString above / Path.ofString written) =
        some (Path.ofString above / spec) ∧
      projectRelative (Path.ofString above / spec)
          (some (Path.ofString above / Path.ofString written)) =
        projectRelative spec (some (Path.ofString written)) ∧
      ∃ between, appRelative (Path.ofString written) =
          "app/" ++ between ++ "/" ++ (Path.ofString written).name ∧
        projectRelative spec (some (Path.ofString written)) =
          "spec/" ++ between ++ "/" ++ (Path.ofString written).stem ++ "_spec.rb" := by
  have source := isCheckable_isSource checkable
  obtain ⟨outer, below, inProject⟩ := exists_inProject checkable
  have moved := inProject.moved relative (Path.ofString above)
  have named := inProject.name_moved relative (Path.ofString above)
  have stem : (Path.ofString above / Path.ofString written).stem =
      (Path.ofString written).stem := by
    rw [Path.stem, named, ← Path.stem]
  have movedSource : isSource (Path.ofString above / Path.ofString written) = true := by
    rw [isSource_congr named, source]
  obtain ⟨first, rest, segment, parts⟩ := inProject.exists_specParts relative
    ((Path.ofString written).stem ++ specEnding)
  have spec : Path.ofParts ((Path.ofString above).parts ++ outer ++
      (specRoot :: below ++ [(Path.ofString written).stem ++ specEnding])) =
      Path.ofString above / Path.ofParts (outer ++
        (specRoot :: below ++ [(Path.ofString written).stem ++ specEnding])) := by
    rw [List.append_assoc, parts, Path.ofParts_parts_append above segment]
  have shown := inProject.appRelative
  have specShown := inProject.projectRelative ((Path.ofString written).stem ++ specEnding)
  refine ⟨moved.isCheckable movedSource, ?_, _, inProject.expectedSpec? source, ?_, ?_,
    "/".intercalate below, shown, ?_⟩
  · rw [shown, moved.appRelative, named]
  · rw [moved.expectedSpec? movedSource, stem, spec]
  · rw [specShown, ← spec]
    exact moved.projectRelative _
  · rw [specShown]
    exact String.append_assoc.symm

/-- The project may lie below an `app` and a covered directory of its own. -/
theorem checkout_independent_below_app :
    isCheckable (Path.ofString "/srv/app/models" / Path.ofString "app/models/user.rb") = true ∧
    appRelative (Path.ofString "/srv/app/models" / Path.ofString "app/models/user.rb") =
      appRelative (Path.ofString "app/models/user.rb") :=
  have result := checkout_independent "/srv/app/models" "app/models/user.rb" (by decide +kernel)
    (by decide +kernel)
  ⟨result.1, result.2.1⟩

end Layout

end SpecLint
