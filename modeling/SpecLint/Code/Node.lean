import SpecLint.Code.Location

/-!
# Code trees

The constructs that the analyses tell apart; everything else is `other` and keeps its children. A
tree is a value: nothing in it points upwards. Positions inside a tree, and with them the enclosing
nodes, are the subject of `SpecLint.Code.Site`.
-/
namespace SpecLint.Code

/-- The written form of a conditional. -/
inductive Branching where
  /-- An `if` chain. -/
  | ifChain
  /-- An `unless` chain. -/
  | unlessChain
  /-- A condition behind a statement. -/
  | modifier
  /-- A conditional expression. -/
  | ternary
  deriving DecidableEq, Repr

inductive Node where
  | program (body : List Node) (loc : Option Location)
  /-- A class; `name` is the constant path as written. -/
  | classDef (name : String) (superclass : Option Node) (body : List Node) (loc : Option Location)
  | moduleDef (name : String) (body : List Node) (loc : Option Location)
  /-- The class of one object, usually of `self`. -/
  | singletonClass (target : Node) (body : List Node) (loc : Option Location)
  | methodDef (name : String) (body : List Node) (loc : Option Location)
  /-- A method of one object, usually of `self`. -/
  | singletonMethodDef (receiver : Node) (name : String) (body : List Node) (loc : Option Location)
  /-- The block attached to a call. -/
  | block (body : List Node) (loc : Option Location)
  | call (receiver : Option Node) (name : String) (args : List Node) (attached : Option Node)
      (loc : Option Location)
  /-- One guarded arm of a conditional or a case. -/
  | arm (condition : Option Node) (body : List Node) (loc : Option Location)
  | conditional (form : Branching) (arms : List Node) (orelse : Option (List Node)) (negated : Bool)
      (loc : Option Location)
  | caseOf (subject : Option Node) (arms : List Node) (orelse : Option (List Node))
      (loc : Option Location)
  /-- An assignment through an operator, such as `||=`. -/
  | opAssign (target : Node) (operator : String) (value : Node) (loc : Option Location)
  | assign (target value : Node) (loc : Option Location)
  | returned (value : Option Node) (loc : Option Location)
  | defined (operand : Node) (loc : Option Location)
  | index (receiver : Node) (args : List Node) (loc : Option Location)
  | instanceVar (name : String) (loc : Option Location)
  | identifier (name : String) (loc : Option Location)
  | selfRef (loc : Option Location)
  | const (name : String) (loc : Option Location)
  | symbol (value : String) (loc : Option Location)
  /-- A string; without a value when it interpolates. -/
  | str (value : Option String) (loc : Option Location)
  | other (kind : String) (children : List Node) (loc : Option Location)
  deriving Repr

instance : Inhabited Node := ⟨.selfRef none⟩

namespace Node

def loc : Node → Option Location
  | program _ loc | classDef _ _ _ loc | moduleDef _ _ loc | singletonClass _ _ loc
  | methodDef _ _ loc | singletonMethodDef _ _ _ loc | block _ loc | call _ _ _ _ loc
  | arm _ _ loc | conditional _ _ _ _ loc | caseOf _ _ _ loc | opAssign _ _ _ loc
  | assign _ _ loc | returned _ loc | defined _ loc | index _ _ loc | instanceVar _ loc
  | identifier _ loc | selfRef loc | const _ loc | symbol _ loc | str _ loc | other _ _ loc => loc

/-- The direct children, in the order in which a walk visits them. -/
def children : Node → List Node
  | program body _ | moduleDef _ body _ | methodDef _ body _ | block body _ => body
  | classDef _ superclass body _ => superclass.toList ++ body
  | singletonClass target body _ => target :: body
  | singletonMethodDef receiver _ body _ => receiver :: body
  | call receiver _ args attached _ => receiver.toList ++ args ++ attached.toList
  | arm condition body _ => condition.toList ++ body
  | conditional _ arms orelse _ _ => arms ++ orelse.getD []
  | caseOf subject arms orelse _ => subject.toList ++ arms ++ orelse.getD []
  | opAssign target _ value _ => [target, value]
  | assign target value _ => [target, value]
  | returned value _ => value.toList
  | defined operand _ => [operand]
  | index receiver args _ => receiver :: args
  | other _ children _ => children
  | instanceVar .. | identifier .. | selfRef .. | const .. | symbol .. | str .. => []

/-- The position among the children at which the body of a scope starts. -/
def bodyOffset : Node → Nat
  | classDef _ superclass _ _ => superclass.toList.length
  | singletonClass .. | singletonMethodDef .. => 1
  | _ => 0

/-- The statements of a node that opens a scope; a call has those of its block. -/
def body : Node → List Node
  | program body _ | classDef _ _ body _ | moduleDef _ body _ | singletonClass _ body _
  | methodDef _ body _ | singletonMethodDef _ _ body _ | block body _ => body
  | call _ _ _ (some (block body _)) _ => body
  | _ => []

/-- The text of a string or symbol literal. -/
def literal? : Node → Option String
  | str value _ => value
  | symbol value _ => some value
  | _ => none

def isUnit : Node → Bool
  | classDef .. | moduleDef .. => true
  | _ => false

def isRoutine : Node → Bool
  | methodDef .. | singletonMethodDef .. => true
  | _ => false

def isClass : Node → Bool
  | classDef .. => true
  | _ => false

/-- The class of `self`. -/
def isSelfClass : Node → Bool
  | singletonClass (selfRef _) _ _ => true
  | _ => false

/-- The name a declaration or routine gives. -/
def declaredName : Node → String
  | classDef name _ _ _ | moduleDef name _ _ | methodDef name _ _
  | singletonMethodDef _ name _ _ => name
  | _ => ""

theorem sizeOf_lt_of_mem_children {child node : Node} (member : child ∈ node.children) :
    sizeOf child < sizeOf node := by
  have inList {items : List Node} (present : child ∈ items) : sizeOf child < sizeOf items :=
    List.sizeOf_lt_of_mem present
  have inOption {item : Option Node} (present : item = some child) :
      sizeOf child < sizeOf item := by subst present; simp
  have inElse {items : Option (List Node)} (present : child ∈ items.getD []) :
      sizeOf child < sizeOf items := by
    cases items with
    | none => simp at present
    | some listed => have := inList present; simp at this ⊢; omega
  cases node <;>
    simp only [children, List.mem_append, List.mem_cons, Option.mem_toList, List.not_mem_nil,
      or_false] at member
  case program => have := inList member; simp; omega
  case moduleDef => have := inList member; simp; omega
  case methodDef => have := inList member; simp; omega
  case block => have := inList member; simp; omega
  case other => have := inList member; simp; omega
  case classDef =>
    rcases member with present | present
    · have := inOption present; simp; omega
    · have := inList present; simp; omega
  case singletonClass =>
    rcases member with rfl | present
    · simp; omega
    · have := inList present; simp; omega
  case singletonMethodDef =>
    rcases member with rfl | present
    · simp; omega
    · have := inList present; simp; omega
  case call =>
    rcases member with (present | present) | present
    · have := inOption present; simp; omega
    · have := inList present; simp; omega
    · have := inOption present; simp; omega
  case arm =>
    rcases member with present | present
    · have := inOption present; simp; omega
    · have := inList present; simp; omega
  case conditional =>
    rcases member with present | present
    · have := inList present; simp; omega
    · have := inElse present; simp; omega
  case caseOf =>
    rcases member with (present | present) | present
    · have := inOption present; simp; omega
    · have := inList present; simp; omega
    · have := inElse present; simp; omega
  case opAssign => rcases member with rfl | rfl <;> (simp; omega)
  case assign => rcases member with rfl | rfl <;> (simp; omega)
  case returned => have := inOption member; simp; omega
  case defined => subst member; simp; omega
  case index =>
    rcases member with rfl | present
    · simp; omega
    · have := inList present; simp; omega

/-- A property holds of every tree if it passes from the children to their parent. -/
theorem induction {P : Node → Prop} (step : ∀ node, (∀ child ∈ node.children, P child) → P node)
    (node : Node) : P node :=
  step node fun child _member => induction step child
termination_by sizeOf node
decreasing_by exact sizeOf_lt_of_mem_children _member

/-- All nodes of a tree: each before its children, children in order. -/
def walk (node : Node) : List Node :=
  node :: node.children.attach.flatMap fun child => walk child.1
termination_by sizeOf node
decreasing_by exact sizeOf_lt_of_mem_children child.2

theorem walk_eq (node : Node) : node.walk = node :: node.children.flatMap walk := by
  rw [walk]
  simp [List.flatMap_subtype]

theorem mem_walk_self (node : Node) : node ∈ node.walk := by
  rw [walk_eq]
  simp

theorem walk_subset {child node : Node} (member : child ∈ node.children) :
    ∀ inner ∈ child.walk, inner ∈ node.walk := by
  intro inner present
  rw [walk_eq node]
  exact List.mem_cons_of_mem _ (List.mem_flatMap.mpr ⟨child, member, present⟩)

/-- The nodes below a node. -/
def descendants (node : Node) : List Node := node.children.flatMap walk

end Node

end SpecLint.Code
