import SpecLint.CodeUnit.Name
import SpecLint.Data.Value
import SpecLint.Code.Site

/-!
# Units

The unit that owns a piece of code is the innermost class or module around it, under its qualified
name: the constants of all units around it, outermost first. Code outside of every class and module
belongs to the unit that the file name suggests.
-/
namespace SpecLint

open SpecLint.Code SpecLint.Data

structure CodeUnit where
  name : String
  /-- The constants before the last. -/
  qualifiers : List String
  /-- Where the unit is declared; absent when the name comes from the file. -/
  declaration : Option Site
  deriving Repr

namespace CodeUnit

/-- The statements of the declaration. -/
def statements (unit : CodeUnit) : List Node := unit.declaration.elim [] (·.node.body)

def toValue (unit : CodeUnit) : Value :=
  .record [("name", .text unit.name), ("namespace", .list (unit.qualifiers.map .text)),
    ("short", .text (shortName unit.name)), ("declared", .bool unit.declaration.isSome),
    ("statements", .nat unit.statements.length)]

/-- The innermost class or module around a site. -/
def enclosing? (site : Site) : Option Site := site.ancestors.find? (·.node.isUnit)

/-- The constants of a declaration and of all units around it, outermost first. -/
def qualifiedSegments (declaration : Site) : List (List Char) :=
  ((declaration :: declaration.ancestors.filter (·.node.isUnit)).reverse).flatMap fun site =>
    segments site.node.declaredName.toList

def ofDeclaration (declaration : Site) : CodeUnit :=
  let constants := qualifiedSegments declaration
  ⟨String.ofList (joined constants), constants.dropLast.map String.ofList, some declaration⟩

/-- The unit that owns a site. -/
def owning? (site : Site) (path : Option Path) : Option CodeUnit :=
  match enclosing? site with
  | some declaration => some (ofDeclaration declaration)
  | none => (path.bind inferredName?).map fun name => ⟨name, [], none⟩

/-- All classes and modules of a tree, in the order of a walk. -/
def declarations (root : Site) : List Site := root.walk.filter (·.node.isUnit)

/-- A class or module lies directly around its own code. -/
theorem owning?_of_enclosing {site declaration : Site} (path : Option Path)
    (found : enclosing? site = some declaration) :
    owning? site path = some (ofDeclaration declaration) := by
  simp [owning?, found]

end CodeUnit

end SpecLint
