import SpecLint.Code.Node
import SpecLint.Text.Split

/-!
# Branches of a routine

Each conditional construct contributes its explicit arms: a chain one per arm and one for `else`, a
modifier one, a conditional expression two, a `case` like a chain, and `||=` and `&&=` two. A guard
that computes an instance variable only once contributes nothing while memoization is ignored, but
what stands inside it still counts. Nested definitions keep their branches to themselves. A routine
always has at least one branch.
-/
namespace SpecLint.Routine

open SpecLint.Code

/-- Definitions with branches of their own. -/
def isNestedScope : Node → Bool
  | .classDef .. | .moduleDef .. | .singletonClass .. | .methodDef .. | .singletonMethodDef .. =>
    true
  | _ => false

/-- The nodes of a subtree in the order of a walk, nested definitions without their insides. -/
def ownNodes (node : Node) : List Node :=
  if isNestedScope node then [node]
  else node :: node.children.attach.flatMap fun child => ownNodes child.1
termination_by sizeOf node
decreasing_by exact Node.sizeOf_lt_of_mem_children child.2

theorem ownNodes_eq (node : Node) :
    ownNodes node =
      if isNestedScope node then [node] else node :: node.children.flatMap ownNodes := by
  rw [ownNodes]
  simp [List.flatMap_subtype]

/-- A nested definition is seen, but not entered. -/
theorem ownNodes_nested {node : Node} (nested : isNestedScope node = true) :
    ownNodes node = [node] := by
  rw [ownNodes_eq, if_pos nested]

/-- Whether a node stores into an instance variable, or into an element reached from one. -/
def isFieldStorage : Node → Bool
  | .instanceVar _ _ => true
  | .index receiver _ _ => isFieldStorage receiver
  | _ => false

/-- What makes two storages the same: the variable and the literal keys of its elements. -/
def fieldKey? : Node → Option (List Char)
  | .instanceVar name _ => some name.toList
  | .index receiver args _ => do
    let base ← fieldKey? receiver
    let keys ← args.mapM Node.literal?
    return base ++ '[' :: (Text.joinWith [','] (keys.map String.toList) ++ [']'])
  | _ => none

/-- Whether a node is the storage with this key. -/
def stores (key : List Char) (node : Option Node) : Bool := node.bind fieldKey? = some key

/-- Questions whether nothing is stored yet. -/
def emptyPredicates : List String := ["nil?", "blank?", "empty?"]

/-- Questions whether something is stored already. -/
def presentPredicates : List String := ["present?"]

/-- `defined?(@x)`, `@x` or `@x.present?`. -/
def asksComputed (key : List Char) : Option Node → Bool
  | some (.defined operand _) => stores key (some operand)
  | some (.call receiver name args _ _) =>
    presentPredicates.contains name && args.isEmpty && stores key receiver
  | condition => stores key condition

/-- `@x.nil?`, `@x.blank?` or `@x.empty?`. -/
def asksMissing (key : List Char) : Option Node → Bool
  | some (.call receiver name args _ _) =>
    emptyPredicates.contains name && args.isEmpty && stores key receiver
  | _ => false

/-- A single arm that assigns a storage while its condition asks whether that is needed. -/
def guardsAssignment (arms : List Node) (orelse : Option (List Node)) (negated : Bool) : Bool :=
  match arms, orelse with
  | [.arm condition [.assign target _ _] _], none
  | [.arm condition [.assign target _ _] _], some [] =>
    match fieldKey? target with
    | some key => if negated then asksComputed key condition else asksMissing key condition
    | none => false
  | _, _ => false

/-- A single arm that returns a storage if it holds something. -/
def guardsReturn (arms : List Node) : Bool :=
  match arms with
  | [.arm condition [.returned value _] _] =>
    match value.bind fieldKey? with
    | some key => asksComputed key condition
    | none => false
  | _ => false

/-- Whether a node computes a storage only once. -/
def isMemoizationGuard : Node → Bool
  | .opAssign target operator _ _ => operator = "||=" && isFieldStorage target
  | .conditional form arms orelse negated _ =>
    form ≠ .ternary &&
      ((form = .modifier && !negated && guardsReturn arms) || guardsAssignment arms orelse negated)
  | _ => false

/-- Arms and, if there is one, the `else`; at least one. -/
def armCount (arms : List Node) (orelse : Option (List Node)) : Nat :=
  max 1 (arms.length + if orelse.isSome then 1 else 0)

/-- The branches a node contributes by itself. -/
def contribution : Node → Nat
  | .conditional .ternary .. => 2
  | .conditional .modifier .. => 1
  | .conditional _ arms orelse _ _ => armCount arms orelse
  | .caseOf _ arms orelse _ => armCount arms orelse
  | .opAssign _ operator _ _ => if operator = "||=" ∨ operator = "&&=" then 2 else 0
  | _ => 0

/-- What a node counts for in its routine. -/
def counted (ignoreMemoization : Bool) (node : Node) : Nat :=
  if ignoreMemoization ∧ isMemoizationGuard node then 0 else contribution node

/-- The number of branches of a body. -/
def branches (ignoreMemoization : Bool) (body : List Node) : Nat :=
  max 1 (((body.flatMap ownNodes).map (counted ignoreMemoization)).foldr (· + ·) 0)

theorem branches_pos (ignoreMemoization : Bool) (body : List Node) :
    1 ≤ branches ignoreMemoization body := Nat.le_max_left ..

/-- Ignoring memoization never adds a branch. -/
theorem counted_le (node : Node) : counted true node ≤ counted false node := by
  simp only [counted]
  split <;> simp

end SpecLint.Routine
