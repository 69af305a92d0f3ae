import SpecLint.Path.Basic
import SpecLint.Text.Case

/-!
# Names of units

A unit is a class or module. Its name is the path of constants that leads to it, written with double
colons; leading colons say where a constant is looked up and are not part of the name. Where a file
declares no unit, its own name tells which one was meant: `user_creator.rb` means `UserCreator`.
-/
namespace SpecLint.CodeUnit

open SpecLint.Text

/-- Remove leading colons. -/
def withoutColons (name : List Char) : List Char := name.dropWhile (· = ':')

/-- The constants of a declared name. -/
def segments (name : List Char) : List (List Char) := splitOnDouble ':' (withoutColons name)

/-- Constants joined to one name. -/
def joined (names : List (List Char)) : List Char := joinWith [':', ':'] names

/-- The last constant of a name. -/
def shortName (name : String) : String :=
  match afterLastDouble ':' name.toList with
  | some last => String.ofList last
  | none => name

/-- The unit that the name of a file suggests: its words, capitalised. -/
def inferredName? (path : Path) : Option String :=
  if path.stem = "" then none
  else some (String.ofList ((splitOn '_' path.stem.toList).flatMap capitalize))

theorem inferredName?_isSome (path : Path) :
    (inferredName? path).isSome = (path.stem != "") := by
  simp only [inferredName?]
  split <;> simp_all

end SpecLint.CodeUnit
