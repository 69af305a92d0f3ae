import SpecLint.Proofs.Routine.Precedence

/-!
# Inner units

A unit inside of a class that has routines of its own is a detail of that class. Whether a class has
any is looked up among its statements and among those of `class << self`, and nowhere deeper. A
routine that a class owns in another way, as the argument of a call for instance, is overlooked.

## Main result

`insideInnerUnit_iff_plain`: the classes that count as owners are exactly those that own a routine
which is one of these statements.
-/
namespace SpecLint

open SpecLint.Code

namespace Code.Site

variable {scope statement : Site}

theorem mem_children_of_mem_statements (holds : HoldsBody scope.node)
    (member : statement ∈ scope.statements) : statement ∈ scope.children := by
  obtain ⟨front, split⟩ := children_eq_append_statements holds
  rw [split]
  exact List.mem_append_right front member

theorem mem_walk_of_mem_statements (holds : HoldsBody scope.node)
    (member : statement ∈ scope.statements) : statement ∈ scope.walk :=
  mem_walk_of_mem_children (mem_children_of_mem_statements holds member)

theorem ancestors_of_mem_statements (holds : HoldsBody scope.node)
    (member : statement ∈ scope.statements) : statement.ancestors = scope :: scope.ancestors :=
  ancestors_of_mem_children (mem_children_of_mem_statements holds member)

/-- A test on the statements of a scope, asked of their sites. -/
theorem any_body_iff {test : Node → Bool} :
    scope.node.body.any test = true ↔
      ∃ statement ∈ scope.statements, test statement.node = true := by
  rw [← map_node_statements, List.any_map, List.any_eq_true]
  rfl

end Code.Site

namespace Routine

/-- A method without a receiver in its definition. -/
def isMethod : Node → Bool
  | .methodDef .. => true
  | _ => false

theorem isRoutine_of_isMethod {node : Node} (method : isMethod node = true) :
    node.isRoutine = true := by
  cases node <;> first | rfl | cases method

theorem holdsBody_of_isSelfClass {node : Node} (isSelf : node.isSelfClass = true) :
    Site.HoldsBody node := by
  cases node <;> first | exact trivial | cases isSelf

theorem not_isUnit_of_isSelfClass {node : Node} (isSelf : node.isSelfClass = true) :
    node.isUnit = false := by
  cases node <;> first | rfl | cases isSelf

theorem isUnit_of_isClass {node : Node} (isClass : node.isClass = true) : node.isUnit = true := by
  cases node <;> first | rfl | cases isClass

/-! ### Owners -/

/-- A class properly around the unit that owns a site. -/
def ClassAround (site outer : Site) : Prop :=
  outer.node.isClass = true ∧
    ∃ unit, Nearest (·.node.isUnit) site.ancestors unit ∧ outer ∈ unit.ancestors

/-- A routine of the file whose unit is declared at a site. -/
def Declares (tree : Node) (path : Option Path) (declaration : Site) (routine : Routine) : Prop :=
  routine ∈ collect (Site.root tree) path ∧
    Nearest (·.node.isUnit) routine.site.ancestors declaration

/-- A definition is a statement of a declaration, or a statement of a `class << self` that is one
and does not name a receiver then. -/
def WrittenPlainly (declaration definition : Site) : Prop :=
  (definition ∈ declaration.statements ∧ definition.node.isRoutine = true) ∨
    ∃ group ∈ declaration.statements, group.node.isSelfClass = true ∧
      definition ∈ group.statements ∧ isMethod definition.node = true

namespace WrittenPlainly

variable {declaration definition : Site}

theorem isRoutine (plain : WrittenPlainly declaration definition) :
    definition.node.isRoutine = true := by
  rcases plain with ⟨-, isRoutine⟩ | ⟨group, -, -, -, method⟩
  · exact isRoutine
  · exact isRoutine_of_isMethod method

theorem mem_walk (isUnit : declaration.node.isUnit = true)
    (plain : WrittenPlainly declaration definition) : definition ∈ declaration.walk := by
  have holds := holdsBody_of_isUnit isUnit
  rcases plain with ⟨member, -⟩ | ⟨group, member, isSelf, inner, -⟩
  · exact Site.mem_walk_of_mem_statements holds member
  · have within := Site.mem_walk_of_mem_statements (holdsBody_of_isSelfClass isSelf) inner
    exact Site.mem_walk_trans (Site.mem_walk_of_mem_statements holds member) within

/-- The declaration is the unit of a plainly written definition. -/
theorem nearest (isUnit : declaration.node.isUnit = true)
    (plain : WrittenPlainly declaration definition) :
    Nearest (·.node.isUnit) definition.ancestors declaration := by
  have holds := holdsBody_of_isUnit isUnit
  rcases plain with ⟨member, -⟩ | ⟨group, member, isSelf, inner, -⟩
  · refine ⟨[], declaration.ancestors, ?_, isUnit, by simp⟩
    exact Site.ancestors_of_mem_statements holds member
  · -- only the group stands in between, and that is no unit
    refine ⟨[group], declaration.ancestors, ?_, isUnit, ?_⟩
    · rw [Site.ancestors_of_mem_statements (holdsBody_of_isSelfClass isSelf) inner,
        Site.ancestors_of_mem_statements holds member]
      rfl
    · simpa using not_isUnit_of_isSelfClass isSelf

end WrittenPlainly

/-! ### What the scan finds -/

theorem definesMethods_iff {declaration : Site} :
    definesMethods declaration.node.body = true ↔
      ∃ definition, WrittenPlainly declaration definition := by
  unfold definesMethods
  simp only [Site.any_body_iff, Bool.or_eq_true, Bool.and_eq_true]
  constructor
  · rintro ⟨statement, member, isRoutine | ⟨isSelf, definition, inner, method⟩⟩
    · exact ⟨statement, .inl ⟨member, isRoutine⟩⟩
    · exact ⟨definition, .inr ⟨statement, member, isSelf, inner, method⟩⟩
  · rintro ⟨definition, ⟨member, isRoutine⟩ | ⟨group, member, isSelf, inner, method⟩⟩
    · exact ⟨definition, member, .inl isRoutine⟩
    · exact ⟨group, member, .inr ⟨isSelf, definition, inner, method⟩⟩

theorem insideInnerUnit_iff_definesMethods {site : Site} :
    insideInnerUnit site = true ↔
      ∃ outer, ClassAround site outer ∧ definesMethods outer.node.body = true := by
  simp only [insideInnerUnit, Option.any_eq_true, List.any_eq_true, Bool.and_eq_true, ClassAround,
    nearest_iff, CodeUnit.enclosing?]
  constructor
  · rintro ⟨unit, found, outer, around, isClass, defines⟩
    exact ⟨outer, ⟨isClass, unit, found, around⟩, defines⟩
  · rintro ⟨outer, ⟨isClass, unit, found, around⟩, defines⟩
    exact ⟨unit, found, outer, around, isClass, defines⟩

variable {tree : Node} {site : Site}

/-- What stands around a unit of the tree belongs to the tree. -/
theorem ClassAround.mem_walk {outer : Site} (inside : site ∈ (Site.root tree).walk)
    (around : ClassAround site outer) : outer ∈ (Site.root tree).walk := by
  obtain ⟨-, unit, nearest, encloses⟩ := around
  have enclosing : unit ∈ site.ancestors :=
    List.mem_of_find?_eq_some ((nearest_iff ..).mp nearest)
  exact Site.mem_walk_of_mem_ancestors (Site.mem_walk_of_mem_ancestors inside enclosing) encloses

/-- A site lies inside of an inner unit if a class around its unit owns a routine, and this is
written as a statement of the class or, without a receiver, as one of a `class << self` in it. -/
theorem insideInnerUnit_iff_plain (path : Option Path) (inside : site ∈ (Site.root tree).walk) :
    insideInnerUnit site = true ↔ ∃ outer, ClassAround site outer ∧
      ∃ routine, Declares tree path outer routine ∧ WrittenPlainly outer routine.site := by
  rw [insideInnerUnit_iff_definesMethods]
  constructor
  · rintro ⟨outer, around, defines⟩
    obtain ⟨definition, plain⟩ := definesMethods_iff.mp defines
    have isUnit := isUnit_of_isClass around.1
    have found : definition ∈ (Site.root tree).walk :=
      Site.mem_walk_trans (around.mem_walk inside) (plain.mem_walk isUnit)
    have collected : ofSite path definition ∈ collect (Site.root tree) path :=
      List.mem_map_of_mem (List.mem_filter.mpr ⟨found, plain.isRoutine⟩)
    exact ⟨outer, around, ofSite path definition, ⟨collected, plain.nearest isUnit⟩, plain⟩
  · rintro ⟨outer, around, routine, -, plain⟩
    exact ⟨outer, around, definesMethods_iff.mpr ⟨routine.site, plain⟩⟩

/-! A report with a method of the class, and a row in it that lies in a module of its own. -/

def reportSelf : Node := .singletonClass (.selfRef none) [.methodDef "render" [] none] none

def rowClass : Node := .classDef "Row" none [.methodDef "cells" [] none] none

def rowsModule : Node := .moduleDef "Rows" [rowClass] none

def reportClass : Node := .classDef "Report" none [reportSelf, rowsModule] none

def reportProgram : Node := .program [reportClass] none

def cellsSite : Site :=
  ⟨.methodDef "cells" [] none, [(rowClass, 0), (rowsModule, 0), (reportClass, 1),
    (reportProgram, 0)]⟩

theorem insideInnerUnit_iff_plain_cells :
    cellsSite ∈ (Site.root reportProgram).walk ∧ insideInnerUnit cellsSite = true ∧
      ∃ outer, ClassAround cellsSite outer ∧ ∃ routine,
        Declares reportProgram none outer routine ∧ WrittenPlainly outer routine.site := by
  have inside : cellsSite ∈ (Site.root reportProgram).walk :=
    Site.mem_walk_root.mpr ⟨rfl, rfl, rfl, rfl, rfl⟩
  have inner : insideInnerUnit cellsSite = true := by decide
  exact ⟨inside, inner, (insideInnerUnit_iff_plain none inside).mp inner⟩

/-! A method that is the argument of a call belongs to the class, and is not among its
statements. -/

def hiddenRender : Node := .call none "private" [.methodDef "render" [] none] none none

def ledgerClass : Node := .classDef "Report" none [hiddenRender, rowClass] none

def ledgerProgram : Node := .program [ledgerClass] none

def entrySite : Site :=
  ⟨.methodDef "cells" [] none, [(rowClass, 0), (ledgerClass, 1), (ledgerProgram, 0)]⟩

theorem wrapped_routine_is_overlooked :
    entrySite ∈ (Site.root ledgerProgram).walk ∧
      ¬(insideInnerUnit entrySite = true ↔ ∃ outer, ClassAround entrySite outer ∧
        ∃ routine, Declares ledgerProgram none outer routine) := by
  have inside : entrySite ∈ (Site.root ledgerProgram).walk :=
    Site.mem_walk_root.mpr ⟨rfl, rfl, rfl, rfl⟩
  refine ⟨inside, fun reading => ?_⟩
  let outer : Site := ⟨ledgerClass, [(ledgerProgram, 0)]⟩
  let definition : Site := ⟨.methodDef "render" [] none,
    [(hiddenRender, 0), (ledgerClass, 0), (ledgerProgram, 0)]⟩
  have around : ClassAround entrySite outer :=
    ⟨rfl, ⟨rowClass, [(ledgerClass, 1), (ledgerProgram, 0)]⟩,
      ⟨[], [outer, Site.root ledgerProgram], rfl, rfl, by simp⟩, List.mem_cons_self⟩
  have found : definition ∈ (Site.root ledgerProgram).walk :=
    Site.mem_walk_root.mpr ⟨rfl, rfl, rfl, rfl⟩
  have collected : ofSite none definition ∈ collect (Site.root ledgerProgram) none :=
    List.mem_map_of_mem (List.mem_filter.mpr ⟨found, rfl⟩)
  have nearest : Nearest (·.node.isUnit) definition.ancestors outer :=
    ⟨[⟨hiddenRender, [(ledgerClass, 0), (ledgerProgram, 0)]⟩], [Site.root ledgerProgram], rfl, rfl,
      by simp [hiddenRender, Node.isUnit]⟩
  have claimed := reading.mpr ⟨outer, around, ofSite none definition, collected, nearest⟩
  have missed : insideInnerUnit entrySite = false := by decide
  rw [missed] at claimed
  cases claimed

end Routine

end SpecLint
