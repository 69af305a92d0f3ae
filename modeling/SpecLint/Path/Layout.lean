import SpecLint.Path.Basic

/-!
# Where specs are expected

A project keeps its code under an `app` directory and the specs under `spec`, one level beside it:
`app/models/user.rb` is described by `spec/models/user_spec.rb`. The project may lie anywhere,
even below directories called `app` or `spec`, so the root segment is the rightmost one that is
directly followed by a covered directory, and the rightmost one at all if there is none such.
-/
namespace SpecLint.Layout

/-- The segment under which source files live. -/
def sourceRoot : String := "app"

/-- The segment that replaces it for spec files. -/
def specRoot : String := "spec"

def rubySuffix : String := ".rb"

/-- How the name of a spec file ends. -/
def specEnding : String := "_spec.rb"

/-- The directories whose files are expected to have specs. -/
def coveredDirectories : List String :=
  ["models", "controllers", "services", "jobs", "mailers", "helpers"]

/-- The last position below `size` that passes the test. -/
def lastIndex? (size : Nat) (test : Nat → Bool) : Option Nat :=
  (List.range size).reverse.find? test

theorem lastIndex?_lt {size index : Nat} {test : Nat → Bool}
    (found : lastIndex? size test = some index) : index < size ∧ test index = true := by
  constructor
  · have member := List.mem_of_find?_eq_some found
    simpa using member
  · exact List.find?_some found

/-- The position of the root segment among the parts of a path, its last part excluded. -/
def rootIndex? (roots : List String) (path : Path) : Option Nat :=
  let parts := path.parts.dropLast
  let isRoot (index : Nat) : Bool := parts[index]?.elim false roots.contains
  let isCovered (index : Nat) : Bool := parts[index]?.elim false coveredDirectories.contains
  (lastIndex? parts.length fun index => isRoot index && isCovered (index + 1)).or
    (lastIndex? parts.length isRoot)

/-- The root segment is not the last part. -/
theorem rootIndex?_lt {roots : List String} {path : Path} {index : Nat}
    (found : rootIndex? roots path = some index) : index + 1 < path.parts.length := by
  have bound : index < path.parts.dropLast.length := by
    simp only [rootIndex?] at found
    rcases Option.or_eq_some_iff.mp found with first | ⟨_, second⟩
    · exact (lastIndex?_lt first).1
    · exact (lastIndex?_lt second).1
  simp at bound
  omega

def isSpecFile (path : Path) : Bool := path.name.endsWith specEnding

/-- A Ruby file that is no spec file. -/
def isSource (path : Path) : Bool := !isSpecFile path && path.suffix == rubySuffix

/-- Where the spec of a source file is expected: under the spec root, with the spec ending. -/
def expectedSpec? (source : Path) : Option Path :=
  if isSource source then
    (rootIndex? [sourceRoot] source).map fun index =>
      let moved := source.parts.set index specRoot
      Path.ofParts (moved.dropLast ++ [source.stem ++ specEnding])
  else none

/-- Source files directly or deeper below a covered directory are checked. -/
def isCheckable (source : Path) : Bool :=
  isSource source &&
    match rootIndex? [sourceRoot] source with
    | some index =>
      decide (index + 2 < source.parts.length) &&
        source.parts[index + 1]?.elim false coveredDirectories.contains
    | none => false

/-- The path from the part at `index` on. -/
def cutAt (path : Path) (index : Nat) : String := (Path.ofParts (path.parts.drop index)).toString

/-- The path from its own root segment on. -/
def belowOwnRoot (roots : List String) (path : Path) : String :=
  match rootIndex? roots path with
  | some index => cutAt path index
  | none => path.toString

/-- The path as messages name it. With a source file in the same project, the cut is where that
file's root segment stands. -/
def projectRelative (path : Path) (source : Option Path) : String :=
  let own := belowOwnRoot [sourceRoot, specRoot] path
  match source with
  | none => own
  | some source =>
    match rootIndex? [sourceRoot] source with
    | some index =>
      if path.parts.take index = source.parts.take index then cutAt path index else own
    | none => own

/-- The path from the `app` segment on. -/
def appRelative (path : Path) : String := belowOwnRoot [sourceRoot] path

theorem isCheckable_isSource {source : Path} (checkable : isCheckable source = true) :
    isSource source = true := by
  simp only [isCheckable, Bool.and_eq_true] at checkable
  exact checkable.1

/-- Every checkable file has an expected spec. -/
theorem expectedSpec?_isSome {source : Path} (checkable : isCheckable source = true) :
    (expectedSpec? source).isSome := by
  have isSource := isCheckable_isSource checkable
  simp only [isCheckable, Bool.and_eq_true] at checkable
  cases found : rootIndex? [sourceRoot] source with
  | none => simp [found] at checkable
  | some index => simp [expectedSpec?, isSource, found]

/-- Spec files have no expected spec of their own. -/
theorem expectedSpec?_specFile {path : Path} (spec : isSpecFile path = true) :
    expectedSpec? path = none := by
  simp [expectedSpec?, isSource, spec]

end SpecLint.Layout
