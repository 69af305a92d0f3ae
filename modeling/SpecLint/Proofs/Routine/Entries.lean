import SpecLint.Proofs.Code.Parts
import Mathlib.Algebra.BigOperators.Group.List.Basic
import Mathlib.Algebra.GroupWithZero.Nat

/-!
# What a concrete tree contributes

Branches are counted on code trees. Here is what the count comes to on the concrete tree that a code
tree is read from: a construct has a weight of its own, by its kind, and is read from some of the
nodes below it, its entries. What all entries contribute is added to the weight. A definition
contributes nothing to what it stands in.

That this is the count of the code tree is the subject of `SpecLint.Proofs.Routine.Tally`.
-/
namespace SpecLint.Routine

open SpecLint.Code

/-- Kinds of definitions, which keep their branches to themselves. -/
def definitionKinds : List String :=
  ["class", "module", "singleton_class", "method", "singleton_method"]

def isDefinition (tree : Concrete) : Bool := definitionKinds.contains tree.kind

/-! ### Weights -/

/-- One for each further arm of a chain, and one for what ends it. -/
def alternativeArms (alternative : Concrete) : Nat :=
  if alternative.kind = "elsif" then
    match _next : alternative.child? "alternative" with
    | some further => 1 + alternativeArms further
    | none => 1
  else 1
termination_by sizeOf alternative
decreasing_by exact Concrete.sizeOf_lt_of_mem_children (Concrete.mem_children_of_child? _next)

/-- The arms of an `if` or `unless`, and its `else`. -/
def chainArms (tree : Concrete) : Nat := 1 + (tree.child? "alternative").elim 0 alternativeArms

theorem alternativeArms_elsif (tree : Concrete) (isElsif : tree.kind = "elsif") :
    alternativeArms tree = chainArms tree := by
  rw [alternativeArms, if_pos isElsif, chainArms]
  split
  next further next => rw [next, Option.elim_some]
  next next => rw [next, Option.elim_none]

/-- Whether a node is an arm of a case. -/
def isCaseArm (tree : Concrete) : Bool := tree.kind = "when" ∨ tree.kind = "in_clause"

def isElse (tree : Concrete) : Bool := tree.kind = "else"

def isBlock (tree : Concrete) : Bool := tree.kind = "do_block" ∨ tree.kind = "block"

/-- The arms of a case, and its `else`; at least one. -/
def caseArms (tree : Concrete) : Nat :=
  max 1 ((tree.namedChildren.filter isCaseArm).length +
    if tree.namedChildren.any isElse then 1 else 0)

/-- The branches that a construct has by itself. -/
def weight (source : Source) (tree : Concrete) : Nat :=
  match tree.kind with
  | "if" | "unless" => chainArms tree
  | "if_modifier" | "unless_modifier" => 1
  | "conditional" => 2
  | "case" | "case_match" => caseArms tree
  | "operator_assignment" =>
    let operator := (tree.child? "operator").elim "" (textOf source)
    if operator = "||=" ∨ operator = "&&=" then 2 else 0
  | _ => 0

/-! ### Entries -/

/-- The parts that the alternatives of a chain are read from. -/
def alternativeParts (alternative : Concrete) : List Concrete :=
  if alternative.kind = "elsif" then
    alternative.under ["condition", "consequence"] ++
      match _next : alternative.child? "alternative" with
      | some further => alternativeParts further
      | none => []
  else [alternative]
termination_by sizeOf alternative
decreasing_by exact Concrete.sizeOf_lt_of_mem_children (Concrete.mem_children_of_child? _next)

def chainParts (tree : Concrete) : List Concrete :=
  tree.under ["condition", "consequence"] ++ (tree.child? "alternative").elim [] alternativeParts

theorem alternativeParts_elsif (tree : Concrete) (isElsif : tree.kind = "elsif") :
    alternativeParts tree = chainParts tree := by
  rw [alternativeParts, if_pos isElsif, chainParts]
  split
  next further next => rw [next, Option.elim_some]
  next next => rw [next, Option.elim_none]

/-- The block attached to a call. -/
def attachedBlock? (tree : Concrete) : Option Concrete :=
  (tree.child? "block").or (tree.namedChildren.find? isBlock)

def callParts (tree : Concrete) : List Concrete :=
  tree.under ["receiver"] ++ (tree.child? "arguments").elim [] (·.shown) ++
    (attachedBlock? tree).elim [] (·.bodyParts ["parameters"])

def caseArmParts (tree : Concrete) : List Concrete :=
  tree.children.filter (·.field == some "pattern") ++ tree.under ["body"]

def caseParts (tree : Concrete) : List Concrete :=
  tree.under ["value"] ++ (tree.namedChildren.filter isCaseArm).flatMap caseArmParts ++
    (tree.namedChildren.filter isElse).getLast?.toList

def returnParts (tree : Concrete) : List Concrete :=
  tree.namedChildren.flatMap fun child =>
    if child.kind = "argument_list" then child.namedChildren
    else if skippedKinds.contains child.kind then []
    else [child]

/-- Kinds that are read as a leaf, whatever stands below. -/
def leafKinds : List String :=
  ["instance_variable", "identifier", "self", "constant", "scope_resolution", "simple_symbol",
    "hash_key_symbol", "delimited_symbol", "string"]

/-- Fields of a definition that belong to its header. -/
def headerFields : String → List String
  | "class" => ["name", "superclass"]
  | "module" => ["name"]
  | "singleton_class" => ["value"]
  | "method" => ["name", "parameters"]
  | "singleton_method" => ["object", "name", "parameters"]
  | _ => []

/-- The parts that hold the statements of a definition. -/
def statementParts (tree : Concrete) : List Concrete := tree.bodyParts (headerFields tree.kind)

/-- The nodes below a construct that it is read from; for a definition, those of its body. -/
def entries (tree : Concrete) : List Concrete :=
  match tree.kind with
  | "class" | "module" | "singleton_class" | "method" | "singleton_method" => statementParts tree
  | "call" => callParts tree
  | "do_block" | "block" => tree.bodyParts ["parameters"]
  | "if" | "unless" => chainParts tree
  | "if_modifier" | "unless_modifier" => tree.under ["body", "condition"]
  | "conditional" => tree.under ["condition", "consequence", "alternative"]
  | "case" | "case_match" => caseParts tree
  | "return" => returnParts tree
  | "operator_assignment" | "assignment" => tree.under ["left", "right"]
  | "unary" => tree.under ["operand"]
  | "element_reference" => tree.under ["object"] ++ tree.shownBeside ["object"]
  | kind => if leafKinds.contains kind then [] else tree.shown

/-! ### Entries are further down -/

variable {tree inner : Concrete}

theorem below_under {fields : List String} (member : inner ∈ tree.under fields) :
    Below tree inner :=
  below_child (Concrete.mem_children_of_under member)

theorem below_shown (member : inner ∈ tree.shown) : Below tree inner :=
  below_child (Concrete.mem_children_of_shown member)

theorem below_namedChildren (member : inner ∈ tree.namedChildren) : Below tree inner :=
  below_child (Concrete.mem_children_of_namedChildren member)

theorem below_alternativeParts {alternative : Concrete} (isChild : alternative ∈ tree.children)
    (member : inner ∈ alternativeParts alternative) : Below tree inner := by
  -- along the alternatives, each of which is a child of the one before
  induction alternative using alternativeArms.induct generalizing tree with
  | case1 alternative isElsif further next ih =>
    rw [alternativeParts, if_pos isElsif, List.mem_append] at member
    apply Below.deeper isChild
    rcases member with here | later
    · exact below_under here
    · split at later
      next found =>
        obtain rfl := Option.some.inj (next.symm.trans found)
        exact ih (Concrete.mem_children_of_child? next) later
      next missing => cases next.symm.trans missing
  | case2 alternative isElsif next =>
    rw [alternativeParts, if_pos isElsif, List.mem_append] at member
    apply Below.deeper isChild
    rcases member with here | later
    · exact below_under here
    · split at later
      next found => cases next.symm.trans found
      next => cases later
  | case3 alternative isElse =>
    rw [alternativeParts, if_neg isElse, List.mem_singleton] at member
    exact below_child (member ▸ isChild)

theorem below_chainParts (member : inner ∈ chainParts tree) : Below tree inner := by
  rcases List.mem_append.mp member with here | later
  · exact below_under here
  · cases next : tree.child? "alternative" with
    | none => simp [next] at later
    | some alternative =>
      rw [next] at later
      exact below_alternativeParts (Concrete.mem_children_of_child? next) later

theorem mem_children_of_attachedBlock? {block : Concrete}
    (found : attachedBlock? tree = some block) : block ∈ tree.children := by
  rcases Option.or_eq_some_iff.mp found with named | ⟨-, first⟩
  · exact Concrete.mem_children_of_child? named
  · exact Concrete.mem_children_of_namedChildren (List.mem_of_find?_eq_some first)

theorem below_callParts (member : inner ∈ callParts tree) : Below tree inner := by
  rcases List.mem_append.mp member with front | attached
  · rcases List.mem_append.mp front with receiver | argument
    · exact below_under receiver
    · cases found : tree.child? "arguments" with
      | none => simp [found] at argument
      | some list =>
        rw [found] at argument
        exact (below_shown argument).deeper (Concrete.mem_children_of_child? found)
  · cases found : attachedBlock? tree with
    | none => simp [found] at attached
    | some block =>
      rw [found] at attached
      exact (below_child (Concrete.mem_children_of_bodyParts attached)).deeper
        (mem_children_of_attachedBlock? found)

theorem below_caseArmParts (member : inner ∈ caseArmParts tree) : Below tree inner := by
  rcases List.mem_append.mp member with pattern | body
  · exact below_child (List.mem_filter.mp pattern).1
  · exact below_under body

theorem below_caseParts (member : inner ∈ caseParts tree) : Below tree inner := by
  rcases List.mem_append.mp member with front | orelse
  · rcases List.mem_append.mp front with value | arm
    · exact below_under value
    · obtain ⟨part, isArm, inArm⟩ := List.mem_flatMap.mp arm
      have isNamed := (List.mem_filter.mp isArm).1
      exact (below_caseArmParts inArm).deeper (Concrete.mem_children_of_namedChildren isNamed)
  · have isElse := List.mem_of_getLast? (Option.mem_toList.mp orelse)
    exact below_namedChildren (List.mem_filter.mp isElse).1

theorem below_returnParts (member : inner ∈ returnParts tree) : Below tree inner := by
  obtain ⟨child, isNamed, found⟩ := List.mem_flatMap.mp member
  split at found
  · exact (below_namedChildren found).deeper (Concrete.mem_children_of_namedChildren isNamed)
  · split at found
    · cases found
    · rw [List.mem_singleton.mp found]
      exact below_namedChildren isNamed

/-- A construct is read from nodes below it. -/
theorem below_entries (member : inner ∈ entries tree) : Below tree inner := by
  have body {headers : List String} (inBody : inner ∈ tree.bodyParts headers) : Below tree inner :=
    below_child (Concrete.mem_children_of_bodyParts inBody)
  unfold entries at member
  split at member
  -- the cases stand in the order of the kinds
  next => exact body member
  next => exact body member
  next => exact body member
  next => exact body member
  next => exact body member
  next => exact below_callParts member
  next => exact body member
  next => exact body member
  next => exact below_chainParts member
  next => exact below_chainParts member
  next => exact below_under member
  next => exact below_under member
  next => exact below_under member
  next => exact below_caseParts member
  next => exact below_caseParts member
  next => exact below_returnParts member
  next => exact below_under member
  next => exact below_under member
  next => exact below_under member
  next =>
    rcases List.mem_append.mp member with object | argument
    · exact below_under object
    · exact below_shown (List.mem_filter.mp argument).1
  next =>
    split at member
    · cases member
    · exact below_shown member

/-! ### The whole contribution -/

/-- What a list of concrete nodes amounts to. -/
def sumOver (amount : Concrete → Nat) (trees : List Concrete) : Nat := (trees.map amount).sum

/-- What a concrete node contributes: its weight, and what its entries contribute. -/
def tally (source : Source) (tree : Concrete) : Nat :=
  if isDefinition tree then 0
  else weight source tree + ((entries tree).attach.map fun entry => tally source entry.1).sum
termination_by sizeOf tree
decreasing_by exact (below_entries entry.2).sizeOf_lt

theorem tally_eq (source : Source) (tree : Concrete) :
    tally source tree =
      if isDefinition tree then 0
      else weight source tree + sumOver (tally source) (entries tree) := by
  rw [tally, sumOver]
  simp

section Sums

variable (amount : Concrete → Nat)

@[simp] theorem sumOver_nil : sumOver amount [] = 0 := rfl

@[simp] theorem sumOver_singleton (tree : Concrete) : sumOver amount [tree] = amount tree :=
  List.sum_singleton

@[simp] theorem sumOver_append (front back : List Concrete) :
    sumOver amount (front ++ back) = sumOver amount front + sumOver amount back := by
  rw [sumOver, List.map_append, List.sum_append]
  rfl

@[simp] theorem sumOver_under_nil (tree : Concrete) : sumOver amount (tree.under []) = 0 := rfl

@[simp] theorem sumOver_under_cons (tree : Concrete) (field : String) (fields : List String) :
    sumOver amount (tree.under (field :: fields)) =
      (tree.child? field).elim 0 amount + sumOver amount (tree.under fields) := by
  rw [Concrete.under_cons, sumOver_append]
  cases tree.child? field <;> simp

theorem sumOver_filter (test : Concrete → Bool)
    (trees : List Concrete) :
    sumOver amount (trees.filter test) =
      sumOver (fun tree => if test tree then amount tree else 0) trees := by
  induction trees with
  | nil => rfl
  | cons tree rest ih =>
    unfold sumOver at ih ⊢
    cases taken : test tree <;> simp [taken, ih]

variable {amount}

theorem sumOver_congr {other : Concrete → Nat} {trees : List Concrete}
    (same : ∀ tree ∈ trees, amount tree = other tree) :
    sumOver amount trees = sumOver other trees :=
  congrArg List.sum (List.map_congr_left same)

theorem sumOver_le {other : Concrete → Nat} {trees : List Concrete}
    (fewer : ∀ tree ∈ trees, amount tree ≤ other tree) :
    sumOver amount trees ≤ sumOver other trees := by
  induction trees with
  | nil => exact Nat.le_refl 0
  | cons tree rest ih =>
    have here := fewer tree List.mem_cons_self
    have later := ih fun inner member => fewer inner (List.mem_cons_of_mem tree member)
    exact Nat.add_le_add here later

/-- What amounts to nothing may be left out. -/
theorem sumOver_filter_of_zero {test : Concrete → Bool}
    {trees : List Concrete} (nothing : ∀ tree ∈ trees, test tree = false → amount tree = 0) :
    sumOver amount (trees.filter test) = sumOver amount trees := by
  rw [sumOver_filter]
  apply sumOver_congr
  intro tree member
  cases taken : test tree with
  | true => rfl
  | false => exact (nothing tree member taken).symm

end Sums

end SpecLint.Routine
