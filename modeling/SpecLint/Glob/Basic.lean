import SpecLint.Glob.Braces
import SpecLint.Path.Layout

/-!
# Globs over paths

A glob matches a path segment by segment. `**` before further segments spans any number of whole
directories; in last place it is an ordinary wildcard. Brace alternatives are expanded first, and
one matching alternative is enough.
-/
namespace SpecLint.Glob

open SpecLint.Text

/-- The wildcard that a segment stands for in last place or alone: `**` is an ordinary one there. -/
def wildcardOf (segment : String) : String := if segment = "**" then "*" else segment

/-- Match the segments of a path against the segments of a brace-free pattern. What a single segment
matches is up to `test`. -/
def matchSegments (test : String → String → Bool) : List String → List String → Bool
  | parts, [] => parts.isEmpty
  | parts, segment :: rest =>
    if segment = "**" ∧ rest ≠ [] then
      (suffixes parts).any fun tail => matchSegments test tail rest
    else match parts with
      | [] => false
      | part :: others => test (wildcardOf segment) part && matchSegments test others rest

/-- The pieces of a text between slashes. -/
def slashPieces (text : List Char) : List String := (splitOn '/' text).map String.ofList

/-- Whether a glob matches a path, where `test` decides about single segments. -/
def acceptsBy (test : String → String → Bool) (path pattern : String) : Bool :=
  (expandBraces pattern.toList).any fun expanded =>
    matchSegments test (slashPieces path.toList) (slashPieces expanded)

/-- Whether a glob matches a path. -/
def accepts (path pattern : String) : Bool := acceptsBy matchSegment path pattern

/-- Whether one of the patterns matches the path as written or from its `app` segment on. -/
def coversPath (patterns : List String) (path : Path) : Bool :=
  patterns.any fun pattern =>
    accepts path.toString pattern || accepts (Layout.appRelative path) pattern

theorem matchSegments_nil (test : String → String → Bool) (parts : List String) :
    matchSegments test parts [] = parts.isEmpty := by
  rw [matchSegments]

theorem matchSegments_cons (test : String → String → Bool) (parts : List String) (segment : String)
    (rest : List String) :
    matchSegments test parts (segment :: rest) =
      if segment = "**" ∧ rest ≠ [] then
        (suffixes parts).any fun tail => matchSegments test tail rest
      else match parts with
        | [] => false
        | part :: others => test (wildcardOf segment) part && matchSegments test others rest := by
  rw [matchSegments.eq_def]

/-- More patterns match at least as much. -/
theorem coversPath_append (patterns more : List String) (path : Path) :
    coversPath (patterns ++ more) path = (coversPath patterns path || coversPath more path) := by
  simp [coversPath]

end SpecLint.Glob
