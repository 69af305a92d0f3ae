import SpecLint.Regex.Pattern

/-!
# Excluded names

Constructors and lifecycle hooks are never checked, nor are names that an exclusion pattern matches.
The patterns are tried in order, so a malformed one only matters for names that none before it
matches.
-/
namespace SpecLint.Exclusion

/-- Names that are never checked. -/
def reservedNames : List String := ["initialize", "included", "extended", "inherited", "prepended"]

def isReserved (name : String) : Bool := reservedNames.contains name

/-- Whether a name is excluded. -/
def excludes (patterns : List Pattern) (name : String) : Bool :=
  isReserved name || patterns.any (·.occursIn name)

/-- Written patterns up to the first malformed one, and what is wrong with that. -/
def read : List String → List Pattern × Option PatternFault
  | [] => ([], none)
  | written :: rest =>
    match Pattern.ofString written with
    | .error fault => ([], some fault)
    | .ok pattern => (pattern :: (read rest).1, (read rest).2)

/-- Whether a name is excluded by patterns as written. -/
def test (written : List String) (name : String) : Except PatternFault Bool :=
  let (patterns, fault) := read written
  if excludes patterns name then .ok true
  else match fault with
    | some fault => .error fault
    | none => .ok false

theorem excludes_append (patterns more : List Pattern) (name : String) :
    excludes (patterns ++ more) name = (excludes patterns name || excludes more name) := by
  simp only [excludes, List.any_append]
  cases isReserved name <;> simp

/-- Well-formed patterns decide every name. -/
theorem test_of_read {written : List String} {patterns : List Pattern}
    (sound : read written = (patterns, none)) (name : String) :
    test written name = .ok (excludes patterns name) := by
  simp only [test, sound]
  split <;> simp_all

end SpecLint.Exclusion
