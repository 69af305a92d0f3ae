import SpecLint.Proofs.Code.Replacement
import SpecLint.Routine.Branches
import Mathlib.Algebra.GroupWithZero.Nat

/-!
# What a count can see

The count of branches enters no nested definition. The outline of a tree has every nested definition
blotted out; all questions that the count asks have the same answer for a tree and its outline. So
what stands inside a nested definition cannot matter.

## Main result

`branches_congr`: bodies with the same outlines have the same number of branches.
-/
namespace SpecLint.Routine

open SpecLint.Code

/-- The tree without its outermost nested definitions. -/
def outline (node : Node) : Node :=
  if isNestedScope node then .other "" [] none
  else node.withChildren (node.children.attach.map fun child => outline child.1)
termination_by sizeOf node
decreasing_by exact Node.sizeOf_lt_of_mem_children child.2

theorem outline_eq (node : Node) :
    outline node =
      if isNestedScope node then .other "" [] none
      else node.withChildren (node.children.map outline) := by
  rw [outline]
  simp

theorem outline_nested {node : Node} (nested : isNestedScope node = true) :
    outline node = .other "" [] none := by
  rw [outline_eq, if_pos nested]

theorem outline_open {node : Node} (entered : isNestedScope node = false) :
    outline node = node.withChildren (node.children.map outline) := by
  rw [outline_eq, entered]
  rfl

theorem children_outline {node : Node} (entered : isNestedScope node = false) :
    (outline node).children = node.children.map outline := by
  rw [outline_open entered]
  exact Node.children_withChildren (List.length_map ..)

theorem isNestedScope_withChildren (node : Node) (items : List Node) :
    isNestedScope (node.withChildren items) = isNestedScope node := by
  cases node <;> rfl

theorem isNestedScope_outline (node : Node) : isNestedScope (outline node) = false := by
  cases nested : isNestedScope node with
  | true =>
    rw [outline_nested nested]
    rfl
  | false => rw [outline_open nested, isNestedScope_withChildren, nested]

/-! ### The constructs that guards are made of -/

theorem refill_map_outline (slot : Option Node) (rest : List Node) :
    Node.refill slot ((slot.toList ++ rest).map outline) = slot.map outline := by
  cases slot <;> rfl

theorem outline_arm (condition : Option Node) (body : List Node) (loc : Option Location) :
    outline (.arm condition body loc) = .arm (condition.map outline) (body.map outline) loc := by
  rw [outline_open rfl, Node.withChildren, Node.children, refill_map_outline, ← List.map_drop,
    List.drop_left]

theorem outline_conditional (form : Branching) (arms : List Node) (orelse : Option (List Node))
    (negated : Bool) (loc : Option Location) :
    outline (.conditional form arms orelse negated loc) =
      .conditional form (arms.map outline) (orelse.map (List.map outline)) negated loc := by
  rw [outline_open rfl, Node.withChildren, Node.children, ← List.map_take, ← List.map_drop,
    List.take_left, List.drop_left]
  cases orelse <;> rfl

theorem outline_call (receiver : Option Node) (name : String) (args : List Node)
    (attached : Option Node) (loc : Option Location) :
    outline (.call receiver name args attached loc) =
      .call (receiver.map outline) name (args.map outline) (attached.map outline) loc := by
  rw [outline_open rfl, Node.withChildren, Node.children, List.append_assoc, refill_map_outline,
    ← List.map_drop, List.drop_left, ← List.map_take, ← List.map_drop, List.take_left,
    List.drop_left]
  have last := refill_map_outline attached []
  rw [List.append_nil] at last
  rw [last]

theorem outline_opAssign (target : Node) (operator : String) (value : Node)
    (loc : Option Location) :
    outline (.opAssign target operator value loc) =
      .opAssign (outline target) operator (outline value) loc := by
  rw [outline_open rfl]
  rfl

theorem outline_assign (target value : Node) (loc : Option Location) :
    outline (.assign target value loc) = .assign (outline target) (outline value) loc := by
  rw [outline_open rfl]
  rfl

theorem outline_returned (value : Option Node) (loc : Option Location) :
    outline (.returned value loc) = .returned (value.map outline) loc := by
  rw [outline_open rfl]
  cases value <;> rfl

theorem outline_defined (operand : Node) (loc : Option Location) :
    outline (.defined operand loc) = .defined (outline operand) loc := by
  rw [outline_open rfl]
  rfl

theorem outline_index (receiver : Node) (args : List Node) (loc : Option Location) :
    outline (.index receiver args loc) = .index (outline receiver) (args.map outline) loc := by
  rw [outline_open rfl]
  rfl

/-! ### What the outline keeps -/

theorem literal?_outline (node : Node) : (outline node).literal? = node.literal? := by
  rw [outline_eq]
  cases node <;> rfl

theorem mapM_literal?_outline (nodes : List Node) :
    (nodes.map outline).mapM Node.literal? = nodes.mapM Node.literal? := by
  induction nodes with
  | nil => rfl
  | cons node nodes ih => rw [List.map_cons, List.mapM_cons, List.mapM_cons, literal?_outline, ih]

theorem isFieldStorage_outline (node : Node) :
    isFieldStorage (outline node) = isFieldStorage node := by
  induction node using Node.induction with
  | step node ih =>
    cases node with
    | index receiver args loc =>
      rw [outline_index, isFieldStorage, isFieldStorage]
      exact ih receiver (List.mem_cons_self ..)
    | _ =>
      rw [outline_eq]
      rfl

theorem fieldKey?_outline (node : Node) : fieldKey? (outline node) = fieldKey? node := by
  induction node using Node.induction with
  | step node ih =>
    cases node with
    | index receiver args loc =>
      rw [outline_index, fieldKey?, fieldKey?, ih receiver (List.mem_cons_self ..),
        mapM_literal?_outline]
    | _ =>
      rw [outline_eq]
      rfl

theorem stores_map_outline (key : List Char) (node : Option Node) :
    stores key (node.map outline) = stores key node := by
  cases node with
  | none => rfl
  | some node => simp only [stores, Option.map_some, Option.bind_some, fieldKey?_outline]

theorem isEmpty_map_outline (nodes : List Node) : (nodes.map outline).isEmpty = nodes.isEmpty := by
  cases nodes <;> rfl

theorem asksComputed_map_outline (key : List Char) (condition : Option Node) :
    asksComputed key (condition.map outline) = asksComputed key condition := by
  cases condition with
  | none => rfl
  | some node =>
    have stored := stores_map_outline key (some node)
    rw [Option.map_some] at stored ⊢
    cases node with
    | defined operand loc =>
      rw [outline_defined, asksComputed, asksComputed]
      exact stores_map_outline key (some operand)
    | call receiver name args attached loc =>
      rw [outline_call, asksComputed, asksComputed, stores_map_outline, isEmpty_map_outline]
    | _ =>
      rw [outline_eq] at stored ⊢
      exact stored

theorem asksMissing_map_outline (key : List Char) (condition : Option Node) :
    asksMissing key (condition.map outline) = asksMissing key condition := by
  cases condition with
  | none => rfl
  | some node =>
    rw [Option.map_some]
    cases node with
    | call receiver name args attached loc =>
      rw [outline_call, asksMissing, asksMissing, stores_map_outline, isEmpty_map_outline]
    | _ =>
      rw [outline_eq]
      rfl

theorem guardsReturn_map_outline (arms : List Node) :
    guardsReturn (arms.map outline) = guardsReturn arms := by
  match arms with
  | [] => rfl
  | _ :: _ :: _ => simp [guardsReturn]
  | [only] =>
    rw [List.map_singleton]
    cases only with
    | arm condition body loc =>
      rw [outline_arm]
      match body with
      | [] => rfl
      | _ :: _ :: _ => simp [guardsReturn]
      | [statement] =>
        rw [List.map_singleton]
        cases statement with
        | returned value loc =>
          rw [outline_returned, guardsReturn, guardsReturn]
          simp only [asksComputed_map_outline]
          cases value with
          | none => rfl
          | some node => rw [Option.map_some, Option.bind_some, Option.bind_some, fieldKey?_outline]
        | _ =>
          rw [outline_eq]
          rfl
    | _ =>
      rw [outline_eq]
      rfl

theorem guardsAssignment_map_outline (arms : List Node) (orelse : Option (List Node))
    (negated : Bool) :
    guardsAssignment (arms.map outline) (orelse.map (List.map outline)) negated =
      guardsAssignment arms orelse negated := by
  match arms with
  | [] => rfl
  | _ :: _ :: _ => simp [guardsAssignment]
  | [only] =>
    rw [List.map_singleton]
    cases only with
    | arm condition body loc =>
      rw [outline_arm]
      match body with
      | [] => rfl
      | _ :: _ :: _ => simp [guardsAssignment]
      | [statement] =>
        rw [List.map_singleton]
        cases statement with
        | assign target value inner =>
          rw [outline_assign]
          -- an `else` without statements counts as none
          match orelse with
          | none =>
            rw [Option.map_none, guardsAssignment, guardsAssignment]
            simp only [fieldKey?_outline, asksComputed_map_outline, asksMissing_map_outline]
          | some [] =>
            rw [Option.map_some, List.map_nil, guardsAssignment, guardsAssignment]
            simp only [fieldKey?_outline, asksComputed_map_outline, asksMissing_map_outline]
          | some (_ :: _) => rfl
        | _ =>
          rw [outline_eq]
          rfl
    | _ =>
      rw [outline_eq]
      rfl

theorem isMemoizationGuard_outline (node : Node) :
    isMemoizationGuard (outline node) = isMemoizationGuard node := by
  cases node with
  | opAssign target operator value loc =>
    rw [outline_opAssign, isMemoizationGuard, isMemoizationGuard, isFieldStorage_outline]
  | conditional form arms orelse negated loc =>
    rw [outline_conditional, isMemoizationGuard, isMemoizationGuard, guardsReturn_map_outline,
      guardsAssignment_map_outline]
  | _ =>
    rw [outline_eq]
    rfl

/-- A construct contributes the same with any other children. -/
theorem contribution_withChildren {node : Node} {items : List Node}
    (size : items.length = node.children.length) :
    contribution (node.withChildren items) = contribution node := by
  cases node with
  | conditional form arms orelse negated loc =>
    simp only [Node.children, List.length_append] at size
    have count : (items.take arms.length).length = arms.length := by
      rw [List.length_take]
      omega
    cases form <;>
      simp only [Node.withChildren, contribution, armCount, count, Option.isSome_map]
  | caseOf subject arms orelse loc =>
    simp only [Node.children, List.length_append] at size
    have count : ((items.drop subject.toList.length).take arms.length).length = arms.length := by
      rw [List.length_take, List.length_drop]
      omega
    simp only [Node.withChildren, contribution, armCount, count, Option.isSome_map]
  | _ => rfl

theorem contribution_nested {node : Node} (nested : isNestedScope node = true) :
    contribution node = 0 := by
  cases node <;> first | rfl | cases nested

theorem contribution_outline (node : Node) : contribution (outline node) = contribution node := by
  cases nested : isNestedScope node with
  | true =>
    rw [outline_nested nested, contribution_nested nested]
    rfl
  | false =>
    rw [outline_open nested]
    exact contribution_withChildren (List.length_map ..)

theorem counted_outline (ignoreMemoization : Bool) (node : Node) :
    counted ignoreMemoization (outline node) = counted ignoreMemoization node := by
  rw [counted, counted, isMemoizationGuard_outline, contribution_outline]

/-! ### The count -/

theorem sum_flatMap {α : Type} (items : List α) (counts : α → List Nat) :
    (items.flatMap counts).sum = (items.map fun item => (counts item).sum).sum := by
  rw [List.flatMap_def, List.sum_flatten, List.map_map]
  rfl

/-- What the nodes of a subtree count for, nested definitions without their insides. -/
def total (ignoreMemoization : Bool) (node : Node) : Nat :=
  ((ownNodes node).map (counted ignoreMemoization)).sum

theorem total_open (ignoreMemoization : Bool) {node : Node} (entered : isNestedScope node = false) :
    total ignoreMemoization node = counted ignoreMemoization node +
      (node.children.map (total ignoreMemoization)).sum := by
  have whole : ownNodes node = node :: node.children.flatMap ownNodes := by
    rw [ownNodes_eq, entered]
    rfl
  rw [total, whole, List.map_cons, List.sum_cons, List.map_flatMap, sum_flatMap]
  rfl

theorem total_nested (ignoreMemoization : Bool) {node : Node} (nested : isNestedScope node = true) :
    total ignoreMemoization node = 0 := by
  have silent : counted ignoreMemoization node = 0 := by
    rw [counted, contribution_nested nested, ite_self]
  rw [total, ownNodes_nested nested, List.map_singleton, silent]
  rfl

theorem total_outline (ignoreMemoization : Bool) (node : Node) :
    total ignoreMemoization (outline node) = total ignoreMemoization node := by
  induction node using Node.induction with
  | step node ih =>
    cases nested : isNestedScope node with
    | true =>
      rw [total_nested _ nested, outline_nested nested, total_open _ rfl]
      cases ignoreMemoization <;> rfl
    | false =>
      rw [total_open _ (isNestedScope_outline node), total_open _ nested, counted_outline,
        children_outline nested, List.map_map]
      congr 2
      exact List.map_congr_left ih

theorem branches_eq_total (ignoreMemoization : Bool) (body : List Node) :
    branches ignoreMemoization body = max 1 (body.map (total ignoreMemoization)).sum := by
  have flat : ((body.flatMap ownNodes).map (counted ignoreMemoization)).sum =
      (body.map (total ignoreMemoization)).sum := by
    rw [List.map_flatMap, sum_flatMap]
    rfl
  rw [← flat]
  rfl

/-- Bodies with the same outlines have the same number of branches. -/
theorem branches_congr (ignoreMemoization : Bool) {body other : List Node}
    (same : body.map outline = other.map outline) :
    branches ignoreMemoization body = branches ignoreMemoization other := by
  have seen (statements : List Node) :
      statements.map (total ignoreMemoization) =
        (statements.map outline).map (total ignoreMemoization) := by
    rw [List.map_map]
    exact List.map_congr_left fun node _ => (total_outline ignoreMemoization node).symm
  rw [branches_eq_total, branches_eq_total, seen body, seen other, same]

/-! ### Replaced definitions -/

/-- A definition with other statements. -/
def withBody (body : List Node) : Node → Node
  | .classDef name superclass _ loc => .classDef name superclass body loc
  | .moduleDef name _ loc => .moduleDef name body loc
  | .singletonClass target _ loc => .singletonClass target body loc
  | .methodDef name _ loc => .methodDef name body loc
  | .singletonMethodDef receiver name _ loc => .singletonMethodDef receiver name body loc
  | node => node

theorem body_withBody {node : Node} (nested : isNestedScope node = true) (body : List Node) :
    (withBody body node).body = body := by
  cases node <;> first | rfl | cases nested

theorem isNestedScope_withBody (node : Node) (body : List Node) :
    isNestedScope (withBody body node) = isNestedScope node := by
  cases node <;> rfl

/-- A change of one item that its outline does not show. -/
theorem map_outline_modify {nodes : List Node} {position : Nat} {child : Node}
    {change : Node → Node} (found : nodes[position]? = some child)
    (hidden : outline (change child) = outline child) :
    (nodes.modify position change).map outline = nodes.map outline := by
  apply List.ext_getElem?
  intro index
  rw [List.getElem?_map, List.getElem?_map, List.getElem?_modify]
  by_cases here : position = index
  · subst here
    simp [found, hidden]
  · simp [here]

/-- The outline of a construct with other children. -/
theorem outline_withChildren {node : Node} {items : List Node}
    (entered : isNestedScope node = false) (size : items.length = node.children.length) :
    outline (node.withChildren items) = node.withChildren (items.map outline) := by
  have inside : isNestedScope (node.withChildren items) = false := by
    rw [isNestedScope_withChildren, entered]
  have sameSize : (items.map outline).length = node.children.length := by
    rw [List.length_map, size]
  rw [outline_open inside, Node.children_withChildren size,
    Node.withChildren_withChildren size sameSize]

/-- A definition below a node may have any statements without a change of the outline. -/
theorem outline_modifyAt {node inner : Node} {frames : List (Node × Nat)}
    (leads : Site.Leads node frames inner) (nested : isNestedScope inner = true)
    (body : List Node) :
    outline (node.modifyAt (withBody body) (frames.map (·.2)).reverse) = outline node := by
  induction frames using List.reverseRecOn generalizing node with
  | nil =>
    obtain rfl : inner = node := leads
    have again : isNestedScope (withBody body inner) = true := by
      rw [isNestedScope_withBody, nested]
    rw [List.map_nil, List.reverse_nil, Node.modifyAt, outline_nested again, outline_nested nested]
  | append_singleton between frame ih =>
    obtain ⟨top, position⟩ := frame
    obtain ⟨rfl, child, found, leads⟩ := (Site.leads_concat ..).mp leads
    rw [Site.reverse_positions_concat]
    cases closed : isNestedScope top with
    | true =>
      -- the node is blotted out as a whole
      have again : isNestedScope
          (top.modifyAt (withBody body) (position :: (between.map (·.2)).reverse)) = true := by
        rw [Node.modifyAt, isNestedScope_withChildren, closed]
      rw [outline_nested again, outline_nested closed]
    | false =>
      have below := map_outline_modify found (ih leads)
      rw [outline_open closed, Node.modifyAt, outline_withChildren closed (List.length_modify ..),
        below]

end SpecLint.Routine
