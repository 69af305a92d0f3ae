import SpecLint.CodeUnit.Basic

/-!
# Routines

A routine is a method definition. It lives in one of two scopes: methods of instances are written
`#name` in spec headers, methods of the type itself `.name`. A definition belongs to the type if it
names a receiver, or stands in `class << self` or in a `class_methods` block of the same unit.
-/
namespace SpecLint

open SpecLint.Code

inductive Scope where
  | ofInstance
  | ofType
  deriving DecidableEq, Repr

namespace Scope

def name : Scope → String
  | ofInstance => "instance"
  | ofType => "type"

/-- The sign before a routine's name in spec headers. -/
def sigil : Scope → Char
  | ofInstance => '#'
  | ofType => '.'

def opposite : Scope → Scope
  | ofInstance => ofType
  | ofType => ofInstance

def ofSigil? (c : Char) : Option Scope :=
  if c = '#' then some ofInstance else if c = '.' then some ofType else none

theorem ofSigil?_sigil (scope : Scope) : ofSigil? scope.sigil = some scope := by
  cases scope <;> rfl

theorem opposite_opposite (scope : Scope) : scope.opposite.opposite = scope := by
  cases scope <;> rfl

theorem sigil_eq_of_ofSigil? {c : Char} {scope : Scope} (found : ofSigil? c = some scope) :
    scope.sigil = c := by
  simp only [ofSigil?] at found
  split at found
  next same => simp_all [sigil]; cases found; rfl
  next =>
    split at found
    next same => simp_all [sigil]; cases found; rfl
    next => simp at found

end Scope

structure Routine where
  /-- The definition. -/
  site : Site
  scope : Scope
  unit : Option CodeUnit
  deriving Repr

namespace Routine

def name (routine : Routine) : String := routine.site.node.declaredName

def loc (routine : Routine) : Option Location := routine.site.node.loc

/-- The routine as spec headers name it. -/
def key (routine : Routine) : String :=
  String.ofList (routine.scope.sigil :: routine.name.toList)

/-- The call around a block whose methods become methods of the type. -/
def groupingCall : String := "class_methods"

/-- Whether a site is the block of such a call. -/
def isTypeBlock (site : Site) : Bool :=
  match site.node, site.parent? with
  | .block .., some ⟨.call _ name _ _ _, _⟩ => name == groupingCall
  | _, _ => false

/-- The nearest of the ancestors that decides the scope is a grouping for the type. -/
def inTypeGrouping (ancestors : List Site) : Bool :=
  match ancestors.find? fun site =>
      site.node.isUnit || site.node.isSelfClass || isTypeBlock site with
  | some site => !site.node.isUnit
  | none => false

def scopeOf (site : Site) : Scope :=
  match site.node with
  | .singletonMethodDef .. => .ofType
  | _ => if inTypeGrouping site.ancestors then .ofType else .ofInstance

def ofSite (path : Option Path) (site : Site) : Routine :=
  ⟨site, scopeOf site, CodeUnit.owning? site path⟩

/-- All routines below a site in source order. -/
def collect (root : Site) (path : Option Path) : List Routine :=
  (root.walk.filter (·.node.isRoutine)).map (ofSite path)

/-- A class whose statements define methods of its own. -/
def definesMethods (statements : List Node) : Bool :=
  statements.any fun statement =>
    statement.isRoutine ||
      (statement.isSelfClass && statement.body.any fun
        | .methodDef .. => true
        | _ => false)

/-- Whether the owning unit lies inside a class with methods of its own. Such units are details of
the outer class. -/
def insideInnerUnit (site : Site) : Bool :=
  (CodeUnit.enclosing? site).any fun declaration =>
    declaration.ancestors.any fun ancestor =>
      ancestor.node.isClass && definesMethods ancestor.node.body

/-- Every routine is a definition found by the walk. -/
theorem mem_collect {root : Site} {path : Option Path} {routine : Routine}
    (member : routine ∈ collect root path) :
    routine.site ∈ root.walk ∧ routine.site.node.isRoutine = true ∧
      routine.unit = CodeUnit.owning? routine.site path := by
  simp only [collect, List.mem_map, List.mem_filter] at member
  obtain ⟨site, ⟨walked, defines⟩, rfl⟩ := member
  exact ⟨walked, defines, rfl⟩

end Routine

end SpecLint
