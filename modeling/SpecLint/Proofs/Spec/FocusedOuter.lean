import SpecLint.Proofs.Spec.FocusedReading

/-!
# Outer statements up to focus

Units are described in the outer statements of a spec: those of the program and of the classes and
modules among them. Where the change of a source keeps the names of the calls that describe a
constant there, the outer form of the program stays the same.

## Main result

`outerForm_programOf_relocate`
-/
namespace SpecLint.Spec

open SpecLint.Code
open SpecLint.Routine (attachedBlock?)

/-- Kinds of nodes with outer statements below them, if they are outer ones themselves. -/
def outerKinds : List String := ["class", "module", "parenthesized_statements"] ++ sequenceKinds

/-- The nodes of a tree that may be outer statements. -/
def outer (tree : Concrete) : List Concrete :=
  tree.reached fun node => outerKinds.contains node.kind

/-- A call that describes a constant keeps its name, and no other call gets the name of one. -/
def KeepsDescription (source source' : Source) (place : Nat → Nat) (tree : Concrete) : Prop :=
  tree.kind = "call" → ∀ method ∈ tree.child? "method",
    textOf source' (method.relocate place) = textOf source method ∨
      textOf source' (method.relocate place) ≠ "describe" ∧
        describedConstant? (read source tree).node = none

variable {source source' : Source} {place : Nat → Nat} {tree : Concrete}

theorem mem_outer_of_child {child inner : Concrete} (enters : outerKinds.contains tree.kind = true)
    (isChild : child ∈ tree.children) (deeper : inner ∈ outer child) : inner ∈ outer tree := by
  rw [outer, Concrete.reached_eq, if_pos enters]
  exact List.mem_cons_of_mem _ (List.mem_flatMap.mpr ⟨child, isChild, deeper⟩)

/-! ### Nodes that are no outer statements -/

/-- Kinds of nodes that read as something with an outer form of its own. -/
def formedKinds : List String := ["program", "class", "module", "call", "parenthesized_statements"]

theorem outerForm_returnedOf (values : List Node) (loc : Option Location) :
    outerForm (Routine.returnedOf values loc) = form (Routine.returnedOf values loc) := by
  cases values with
  | nil => rfl
  | cons first rest => cases rest <;> rfl

theorem outerForm_unaryFrom (source : Source) (tree : Concrete) (parts : List Reading) :
    outerForm (unaryFrom source tree parts) = form (unaryFrom source tree parts) := by
  unfold unaryFrom
  dsimp only
  split
  · split <;> rfl
  · rfl

theorem outerForm_build (plain : tree.kind ∉ formedKinds) :
    outerForm (build source tree (readAll source tree.children)) =
      form (build source tree (readAll source tree.children)) := by
  have formed {kind : String} (same : tree.kind = kind) (isFormed : kind ∈ formedKinds) : False :=
    plain (same ▸ isFormed)
  unfold build
  dsimp only
  split
  -- the cases stand in the order of the kinds
  next kind => exact (formed kind (by decide)).elim
  next kind => exact (formed kind (by decide)).elim
  next kind => exact (formed kind (by decide)).elim
  next => rfl
  next => rfl
  next => rfl
  next kind => exact (formed kind (by decide)).elim
  next => rfl
  next => rfl
  next => rw [Routine.chain_readAll]; rfl
  next => rw [Routine.chain_readAll]; rfl
  next => rfl
  next => rfl
  next => rfl
  next => rfl
  next => rfl
  next => rw [Routine.returnFrom_readAll, outerForm_returnedOf]
  next => rfl
  next => rfl
  next => exact outerForm_unaryFrom ..
  next kind => exact (formed kind (by decide)).elim
  next => rfl
  next => rfl
  next => rfl
  next => rfl
  next => rfl
  next => rfl
  next => rfl
  next => rfl
  next => split <;> rfl
  next => rfl
  next => rfl

/-! ### The step -/

section Step

variable (keeps : Keeps source source' place tree)
  (below : ∀ inner, Below tree inner → LooksSame form source source' place inner)

include keeps below

theorem outerForm_callFrom (description : KeepsDescription source source' place tree)
    (isCall : tree.kind = "call") :
    outerForm (callFrom source' (tree.relocate place)
        (readAll source' (tree.relocate place).children)) =
      outerForm (callFrom source tree (readAll source tree.children)) := by
  have receiver := view_nodeOf (of_below below) "receiver"
  have args := form_args below
  have name : nameForm (nodeOf (part? (readAll source' (tree.relocate place).children) "receiver"))
      (calledName source' (tree.relocate place)) (argumentNodes source' (tree.relocate place)) =
      nameForm (nodeOf (part? (readAll source tree.children) "receiver")) (calledName source tree)
        (argumentNodes source tree) := by
    rw [nameForm_congr receiver args]
    cases found : tree.child? "method" with
    | none =>
      rw [calledName, calledName, Concrete.child?_relocate, found]
      simp
    | some method =>
      rcases description isCall method found with same | ⟨other, plain⟩
      · rw [calledName, calledName, Concrete.child?_relocate, found]
        exact congrArg (nameForm _ · _) same
      · -- neither name describes a constant, so only the names up to focus matter
        have focused := focusForm_calledName keeps isCall
        have unnamed : calledName source' (tree.relocate place) ≠ "describe" := by
          rw [calledName, Concrete.child?_relocate, found]
          exact other
        rw [node_read, build, isCall] at plain
        change describedConstant? (callFrom source tree (readAll source tree.children)) =
          none at plain
        rw [callFrom_readAll, describedConstant?_call] at plain
        rw [nameForm_of_none (describedConstant?_of_ne unnamed _ _), focused,
          nameForm_of_none plain]
  have attached := form_attached below
  simp only [callFrom_readAll, outerForm, Option.map_map, Function.comp_def, receiver, args,
    name] at attached ⊢
  rw [attached]

variable (enters : outerKinds.contains tree.kind = true → ∀ child ∈ tree.children,
  LooksSame outerForm source source' place child)

include enters

omit keeps in
theorem outerForm_parenthesized (isParenthesized : tree.kind = "parenthesized_statements") :
    outerForm (parenthesized source' (tree.relocate place)
        (readAll source' (tree.relocate place).children)) =
      outerForm (parenthesized source tree (readAll source tree.children)) := by
  have whole := form_parenthesized below
  have inner := view_shown (enters (by rw [isParenthesized]; rfl))
  unfold parenthesized at whole ⊢
  rw [shownParts_readAll, shownParts_readAll, Concrete.shown_relocate] at *
  cases shown : tree.shown with
  | nil => rfl
  | cons first rest =>
    rw [shown] at inner whole
    cases rest with
    | nil => exact List.singleton_inj.mp inner
    | cons second rest => exact whole

theorem outerForm_node_step (description : KeepsDescription source source' place tree) :
    outerForm (read source' (tree.relocate place)).node = outerForm (read source tree).node := by
  rw [node_read, node_read]
  by_cases formed : tree.kind ∈ formedKinds
  · have named (field : String) (handedOn : field ∈ ["name", "operator"]) :=
      nameOf_relocate keeps handedOn
    have children {kind : String} (same : tree.kind = kind) (isOuter : kind ∈ outerKinds) :=
      enters (by rw [same]; exact List.contains_iff_mem.mpr isOuter)
    rw [build, build, Concrete.kind_relocate]
    simp only [formedKinds, List.mem_cons, List.not_mem_nil, or_false] at formed
    rcases formed with kind | kind | kind | kind | kind <;> rw [kind]
    · simp only [outerForm, outerFormAll_eq_map,
        view_shownStatements (children kind (by decide))]
    · simp only [outerForm, outerFormAll_eq_map, named "name" (by simp), form_superclassOf below,
        view_bodyOf (children kind (by decide))]
    · simp only [outerForm, outerFormAll_eq_map, named "name" (by simp),
        view_bodyOf (children kind (by decide))]
    · exact outerForm_callFrom keeps below description kind
    · exact outerForm_parenthesized below enters kind
  · have same := form_node_step keeps below
    rw [node_read, node_read] at same
    rw [outerForm_build formed, outerForm_build (by rwa [Concrete.kind_relocate]), same]

theorem outerForm_statement_step (description : KeepsDescription source source' place tree) :
    outerForm (statement source' (read source' (tree.relocate place))) =
      outerForm (statement source (read source tree)) := by
  have bare (source : Source) (tree : Concrete) :
      outerForm (.call none (textOf source tree) [] none (locationOf source tree)) =
        .call none (focusForm (textOf source tree)) [] none none := rfl
  simp only [statement, Reading.kind, tree_read, Concrete.kind_relocate]
  split
  next isName => rw [bare, bare, keeps.name isName]
  next => exact outerForm_node_step keeps below enters description

theorem looksSame_outer_step (description : KeepsDescription source source' place tree) :
    LooksSame outerForm source source' place tree where
  node := outerForm_node_step keeps below enters description
  statement := outerForm_statement_step keeps below enters description
  statements := by
    simp only [statements, Reading.kind, tree_read, parts_read, Concrete.kind_relocate]
    split
    next isSequence =>
      refine view_shownStatements (enters ?_)
      exact List.contains_iff_mem.mpr
        (List.mem_append_right _ (List.contains_iff_mem.mp isSequence))
    next =>
      exact congrArg ([·]) (outerForm_statement_step keeps below enters description)

end Step

/-! ### Whole trees -/

theorem looksSame_outer {tree : Concrete}
    (keeps : ∀ inner, Inside tree inner → Keeps source source' place inner)
    (descriptions : ∀ inner ∈ outer tree, KeepsDescription source source' place inner) :
    LooksSame outerForm source source' place tree := by
  have first : tree ∈ outer tree := by
    rw [outer, Concrete.reached_eq]
    exact List.mem_cons_self
  refine looksSame_outer_step (keeps tree .here) (fun inner below => ?_)
    (fun enters child isChild => ?_) (descriptions tree first)
  · exact looksSame_of_keeps fun deeper inside => keeps deeper (below.inside.trans inside)
  · -- the outer statements of an entered child are outer ones of the tree
    refine looksSame_outer (fun inner inside => ?_) (fun inner deeper => ?_)
    · exact keeps inner (Inside.trans (.child .here isChild) inside)
    · exact descriptions inner (mem_outer_of_child enters isChild deeper)
termination_by sizeOf tree
decreasing_by exact Concrete.sizeOf_lt_of_mem_children isChild

theorem outerForm_programOf (source : Source) (tree : Concrete) :
    outerForm (programOf source tree) = asProgram (outerForm (read source tree).node) := by
  unfold programOf
  generalize (read source tree).node = node
  cases node <;> simp [outerForm, form, asProgram]

/-- A program that is read from a moved tree has the same outer form. -/
theorem outerForm_programOf_relocate
    (keeps : ∀ inner, Inside tree inner → Keeps source source' place inner)
    (descriptions : ∀ inner ∈ outer tree, KeepsDescription source source' place inner) :
    outerForm (programOf source' (tree.relocate place)) = outerForm (programOf source tree) := by
  rw [outerForm_programOf, outerForm_programOf, (looksSame_outer keeps descriptions).node]

theorem exists_programOf (source : Source) (tree : Concrete) :
    ∃ body loc, programOf source tree = .program body loc := by
  unfold programOf
  split <;> exact ⟨_, _, rfl⟩

theorem declaresUnit_programOf (source : Source) (tree : Concrete) (name : String) :
    declaresUnit (outerForm (programOf source tree)) name =
      declaresUnit (programOf source tree) name := by
  obtain ⟨body, loc, program⟩ := exists_programOf source tree
  rw [program, declaresUnit_outerForm]

theorem countUnitContexts_programOf (source : Source) (tree : Concrete) (name : String) :
    countUnitContexts (outerForm (programOf source tree)) name =
      countUnitContexts (programOf source tree) name := by
  obtain ⟨body, loc, program⟩ := exists_programOf source tree
  rw [program, countUnitContexts_outerForm]

end SpecLint.Spec
