import SpecLint.Code.Reading

/-!
# Where calls come from

Reading a concrete tree moves nodes around, drops some and wraps others, and a bare name in
statement position becomes a call of its own. But it never makes up a call: each one is read off a
call of the concrete tree or off such a name. A call that has arguments is read off a call.

## Main results

`origin_of_call` and, for calls with arguments, `origin_of_mem_walk`.

## Proof strategy

What a construct is made of is found among the readings of its parts, or of the parts of these. So
it is enough that all these readings are traced; the cases follow the kinds of constructs.
-/
namespace SpecLint.Code

/-- A concrete node of a tree. -/
inductive Inside (tree : Concrete) : Concrete → Prop where
  | here : Inside tree tree
  | child {outer inner : Concrete} (inside : Inside tree outer) (member : inner ∈ outer.children) :
      Inside tree inner

/-- Whether a node is a call with arguments. -/
def hasArguments : Node → Bool
  | .call _ _ args _ _ => !args.isEmpty
  | _ => false

def isCall : Node → Bool
  | .call .. => true
  | _ => false

/-- A call that is read off a call of a concrete tree. -/
def ReadOff (source : Source) (top : Concrete) (node : Node) : Prop :=
  ∃ call, Inside top call ∧ call.kind = "call" ∧
    node = callFrom source call (readAll source call.children)

/-- A call that is read off a bare name of a concrete tree. -/
def BareName (source : Source) (top : Concrete) (node : Node) : Prop :=
  ∃ name, Inside top name ∧ name.kind = "identifier" ∧
    node = .call none (textOf source name) [] none (locationOf source name)

/-- All calls in a code tree are read off a concrete tree. -/
def Traced (source : Source) (top : Concrete) (node : Node) : Prop :=
  ∀ inner ∈ node.walk, isCall inner = true → ReadOff source top inner ∨ BareName source top inner

/-- A reading is traced, and so are the readings of its parts and of theirs. -/
inductive TracedThrough (source : Source) (top : Concrete) : Reading → Prop where
  | mk {reading : Reading} (inside : Inside top reading.tree)
      (node : Traced source top reading.node)
      (parts : ∀ part ∈ reading.parts, TracedThrough source top part) :
      TracedThrough source top reading

variable {source : Source} {top tree : Concrete} {parts : List Reading}

theorem TracedThrough.node {reading : Reading} (through : TracedThrough source top reading) :
    Traced source top reading.node := by
  cases through
  assumption

theorem TracedThrough.part {reading part : Reading} (through : TracedThrough source top reading)
    (member : part ∈ reading.parts) : TracedThrough source top part := by
  cases through with
  | mk _ _ parts => exact parts part member

theorem TracedThrough.inside {reading : Reading} (through : TracedThrough source top reading) :
    Inside top reading.tree := by
  cases through
  assumption

theorem traced_of_children {node : Node} (own : isCall node = false)
    (children : ∀ child ∈ node.children, Traced source top child) : Traced source top node := by
  intro inner member called
  rw [Node.walk_eq, List.mem_cons, List.mem_flatMap] at member
  rcases member with rfl | ⟨child, isChild, below⟩
  · rw [own] at called
    cases called
  · exact children child isChild inner below called

theorem traced_leaf {node : Node} (own : isCall node = false) (leaf : node.children = []) :
    Traced source top node :=
  traced_of_children own (by simp [leaf])

/-! ### Parts -/

section Parts

variable (through : ∀ part ∈ parts, TracedThrough source top part)

include through

theorem through_part? {field : String} {part : Reading} (found : part? parts field = some part) :
    TracedThrough source top part :=
  through part (part?_mem found)

theorem traced_nodeOf {field : String} {node : Node}
    (found : nodeOf (part? parts field) = some node) : Traced source top node := by
  obtain ⟨part, isPart, rfl⟩ := Option.map_eq_some_iff.mp found
  exact (through_part? through isPart).node

theorem traced_getD {fallback : Node} (traced : Traced source top fallback) (field : String) :
    Traced source top ((nodeOf (part? parts field)).getD fallback) := by
  cases found : nodeOf (part? parts field) with
  | none => exact traced
  | some node => exact traced_nodeOf through found

theorem traced_requiredNode (field : String) :
    Traced source top (requiredNode (part? parts field)) :=
  traced_getD through (traced_leaf rfl rfl) field

theorem through_shownParts {part : Reading} (member : part ∈ shownParts parts) :
    TracedThrough source top part :=
  through part (List.mem_filter.mp (List.mem_filter.mp member).1).1

theorem through_namedParts {part : Reading} (member : part ∈ namedParts parts) :
    TracedThrough source top part :=
  through part (List.mem_filter.mp member).1

end Parts

/-! ### Statements -/

theorem traced_statement {part : Reading} (through : TracedThrough source top part) :
    Traced source top (statement source part) := by
  unfold statement
  split
  next bare =>
    intro inner member _
    obtain rfl : inner = _ := by simpa [Node.walk_eq, Node.children] using member
    exact .inr ⟨part.tree, through.inside, bare, rfl⟩
  next => exact through.node

theorem traced_statements {part : Reading} (through : TracedThrough source top part) :
    ∀ node ∈ statements source part, Traced source top node := by
  intro node member
  unfold statements at member
  split at member
  · obtain ⟨inner, isShown, rfl⟩ := List.mem_map.mp member
    exact traced_statement (through_shownParts (fun _ => through.part) isShown)
  · rw [List.mem_singleton.mp member]
    exact traced_statement through

theorem traced_statementsOf (through : ∀ part ∈ parts, TracedThrough source top part)
    (field : String) :
    ∀ node ∈ statementsOf source (part? parts field), Traced source top node := by
  cases found : part? parts field with
  | none => simp [statementsOf]
  | some part => exact traced_statements (through_part? through found)

theorem traced_bodyOf (through : ∀ part ∈ parts, TracedThrough source top part)
    (headers : List String) : ∀ node ∈ bodyOf source parts headers, Traced source top node := by
  unfold bodyOf
  cases found : part? parts "body" with
  | some body => exact traced_statements (through_part? through found)
  | none =>
    intro node member
    obtain ⟨part, beside, rfl⟩ := List.mem_map.mp member
    exact traced_statement (through_shownParts through (List.mem_filter.mp beside).1)

/-! ### Constructs -/

theorem traced_arm {condition : Option Node} {body : List Node} {loc : Option Location}
    (inCondition : ∀ node, condition = some node → Traced source top node)
    (inBody : ∀ node ∈ body, Traced source top node) :
    Traced source top (.arm condition body loc) := by
  apply traced_of_children rfl
  intro child member
  rcases List.mem_append.mp member with isCondition | isStatement
  · exact inCondition child (Option.mem_toList.mp isCondition)
  · exact inBody child isStatement

theorem traced_chainArm (through : ∀ part ∈ parts, TracedThrough source top part) :
    Traced source top (chainArm source tree parts) :=
  traced_arm (fun _ => traced_nodeOf through) (traced_statementsOf through _)

theorem traced_chainRest {alternative : Reading}
    (through : TracedThrough source top alternative) :
    (∀ arm ∈ (chainRest source alternative).1, Traced source top arm) ∧
      ∀ node ∈ (chainRest source alternative).2.getD [], Traced source top node := by
  -- along the chain of alternatives, each of which is a part of the one before
  fun_induction chainRest source alternative with
  | case1 alternative isElsif arm further next arms orelse rest ih =>
    obtain ⟨tracedArms, tracedElse⟩ := ih (through_part? (fun _ => through.part) next)
    rw [rest] at tracedArms tracedElse
    refine ⟨?_, tracedElse⟩
    intro node member
    rcases List.mem_cons.mp member with rfl | later
    · exact traced_chainArm fun _ => through.part
    · exact tracedArms node later
  | case2 alternative isElsif arm next =>
    refine ⟨?_, by simp⟩
    intro node member
    rw [List.mem_singleton.mp member]
    exact traced_chainArm fun _ => through.part
  | case3 alternative isElse =>
    exact ⟨by simp, traced_statements through⟩

theorem traced_chain (form : Branching) (negated : Bool)
    (through : ∀ part ∈ parts, TracedThrough source top part) :
    Traced source top (chain source form negated tree parts) := by
  unfold chain
  cases found : part? parts "alternative" with
  | none =>
    apply traced_of_children rfl
    intro child member
    simp only [Node.children, Option.getD_none, List.append_nil, List.mem_singleton] at member
    rw [member]
    exact traced_chainArm through
  | some alternative =>
    obtain ⟨arms, orelse⟩ := traced_chainRest (through_part? through found)
    apply traced_of_children rfl
    intro child member
    simp only [Node.children, List.cons_append, List.mem_cons, List.mem_append] at member
    rcases member with rfl | inArms | inElse
    · exact traced_chainArm through
    · exact arms child inArms
    · exact orelse child inElse

theorem traced_modified (negated : Bool)
    (through : ∀ part ∈ parts, TracedThrough source top part) :
    Traced source top (modified source negated tree parts) := by
  unfold modified
  apply traced_of_children rfl
  intro arm isArm
  rw [show arm = _ from List.mem_singleton.mp isArm]
  refine traced_arm (fun _ => traced_nodeOf through) ?_
  intro node member
  obtain ⟨part, isBody, rfl⟩ := List.mem_map.mp member
  exact traced_statement (through_part? through (Option.mem_toList.mp isBody))

theorem traced_ternaryOf (through : ∀ part ∈ parts, TracedThrough source top part) :
    Traced source top (ternaryOf source tree parts) := by
  have branch (field : String) :
      ∀ node ∈ (nodeOf (part? parts field)).toList, Traced source top node :=
    fun node member => traced_nodeOf through (Option.mem_toList.mp member)
  unfold ternaryOf
  apply traced_of_children rfl
  intro child member
  rcases List.mem_cons.mp member with rfl | alternative
  · exact traced_arm (fun _ => traced_nodeOf through) (branch "consequence")
  · exact branch "alternative" child alternative

theorem traced_caseArm {part : Reading} (through : TracedThrough source top part) :
    Traced source top (caseArm source part) := by
  refine traced_arm ?_ (traced_statementsOf (fun _ => through.part) _)
  intro patterns isPatterns
  rw [← Option.some.inj isPatterns]
  apply traced_of_children rfl
  intro pattern isPattern
  obtain ⟨inner, isInner, rfl⟩ := List.mem_map.mp isPattern
  exact (through.part (List.mem_filter.mp isInner).1).node

theorem traced_caseFrom (through : ∀ part ∈ parts, TracedThrough source top part) :
    Traced source top (caseFrom source tree parts) := by
  unfold caseFrom
  apply traced_of_children rfl
  intro child member
  simp only [Node.children, List.mem_append, Option.mem_toList] at member
  rcases member with (subject | arm) | inElse
  · exact traced_nodeOf through subject
  · obtain ⟨part, isArm, rfl⟩ := List.mem_map.mp arm
    exact traced_caseArm (through_namedParts through (List.mem_filter.mp isArm).1)
  · cases last : ((namedParts parts).filter fun part => part.kind = "else").getLast? with
    | none => simp [last] at inElse
    | some part =>
      have isElse := List.mem_of_getLast? last
      simp only [last, Option.map_some, Option.getD_some] at inElse
      exact traced_statements (through_namedParts through (List.mem_filter.mp isElse).1) child
        inElse

theorem traced_blockOf {part : Reading} (through : TracedThrough source top part) :
    Traced source top (blockOf source part) :=
  traced_of_children rfl (traced_bodyOf (fun _ => through.part) _)

/-- A call itself is read off, and what it holds is traced. -/
theorem traced_callFrom (through : ∀ part ∈ parts, TracedThrough source top part)
    (inside : Inside top tree) (isCall : tree.kind = "call")
    (own : parts = readAll source tree.children) :
    Traced source top (callFrom source tree parts) := by
  intro inner member called
  rw [Node.walk_eq, List.mem_cons, List.mem_flatMap] at member
  rcases member with rfl | ⟨child, isChild, below⟩
  · exact .inl ⟨tree, inside, isCall, by rw [own]⟩
  · have traced : Traced source top child := by
      simp only [callFrom, Node.children, List.mem_append, Option.mem_toList] at isChild
      -- the receiver, the arguments and the block are readings of parts or of theirs
      rcases isChild with (receiver | argument) | attached
      · exact traced_nodeOf through receiver
      · cases found : part? parts "arguments" with
        | none => simp [found] at argument
        | some list =>
          simp only [found, Option.elim_some] at argument
          obtain ⟨part, isShown, rfl⟩ := List.mem_map.mp argument
          have inList := through_part? through found
          exact (through_shownParts (fun _ => inList.part) isShown).node
      · obtain ⟨part, isBlock, rfl⟩ := Option.map_eq_some_iff.mp attached
        apply traced_blockOf
        rcases Option.or_eq_some_iff.mp isBlock with named | ⟨_, found⟩
        · exact through_part? through named
        · exact through_namedParts through (List.mem_of_find?_eq_some found)
    exact traced inner below called

theorem traced_returnFrom (through : ∀ part ∈ parts, TracedThrough source top part) :
    Traced source top (returnFrom source tree parts) := by
  have values : ∀ value ∈ (namedParts parts).flatMap fun part =>
      if part.kind = "argument_list" then (namedParts part.parts).map (·.node)
      else if skippedKinds.contains part.kind then []
      else [part.node], Traced source top value := by
    intro value member
    obtain ⟨part, isPart, found⟩ := List.mem_flatMap.mp member
    have traced := through_namedParts through isPart
    split at found
    · obtain ⟨inner, isInner, rfl⟩ := List.mem_map.mp found
      exact (through_namedParts (fun _ => traced.part) isInner).node
    · split at found
      · simp at found
      · rw [List.mem_singleton.mp found]
        exact traced.node
  unfold returnFrom
  dsimp only
  split
  next => exact traced_leaf rfl rfl
  next value one =>
    rw [one] at values
    exact traced_of_children rfl (by simpa [Node.children] using values)
  next several =>
    refine traced_of_children rfl ?_
    simp only [Node.children, Option.toList_some, List.mem_singleton]
    rintro child rfl
    exact traced_of_children rfl values

theorem traced_unaryFrom (through : ∀ part ∈ parts, TracedThrough source top part) :
    Traced source top (unaryFrom source tree parts) := by
  have operand := traced_requiredNode through "operand"
  unfold unaryFrom
  dsimp only
  split
  · split <;> exact traced_of_children rfl (by simpa [Node.children] using operand)
  · exact traced_of_children rfl (by simpa [Node.children] using operand)

theorem traced_parenthesized (through : ∀ part ∈ parts, TracedThrough source top part) :
    Traced source top (parenthesized source tree parts) := by
  unfold parenthesized
  split
  next inner one => exact (through_shownParts through (one ▸ List.mem_singleton_self inner)).node
  next =>
    apply traced_of_children rfl
    intro child member
    obtain ⟨part, isShown, rfl⟩ := List.mem_map.mp member
    exact (through_shownParts through isShown).node

theorem traced_superclassOf (through : ∀ part ∈ parts, TracedThrough source top part)
    {node : Node} (found : superclassOf parts = some node) : Traced source top node := by
  obtain ⟨part, isPart, rest⟩ := Option.bind_eq_some_iff.mp found
  obtain ⟨inner, isFirst, rfl⟩ := Option.map_eq_some_iff.mp rest
  have traced := through_part? through isPart
  exact (through_namedParts (fun _ => traced.part) (List.mem_of_head? isFirst)).node

theorem traced_build (through : ∀ part ∈ parts, TracedThrough source top part)
    (inside : Inside top tree) (own : parts = readAll source tree.children) :
    Traced source top (build source tree parts) := by
  have required := traced_requiredNode through
  have self : Traced source top (.selfRef none) := traced_leaf rfl rfl
  have onItself := traced_getD through self
  have shown : ∀ node ∈ (shownParts parts).map (·.node), Traced source top node := by
    intro node member
    obtain ⟨part, isShown, rfl⟩ := List.mem_map.mp member
    exact (through_shownParts through isShown).node
  have headed {first : Node} {rest : List Node} (one : Traced source top first)
      (others : ∀ node ∈ rest, Traced source top node) :
      ∀ node ∈ first :: rest, Traced source top node := List.forall_mem_cons.mpr ⟨one, others⟩
  unfold build
  dsimp only
  split
  -- the cases stand in the order of the kinds
  next =>
    apply traced_of_children rfl
    intro node member
    obtain ⟨part, isShown, rfl⟩ := List.mem_map.mp member
    exact traced_statement (through_shownParts through isShown)
  next =>
    apply traced_of_children rfl
    intro child member
    rcases List.mem_append.mp member with superclass | inBody
    · exact traced_superclassOf through (Option.mem_toList.mp superclass)
    · exact traced_bodyOf through _ child inBody
  next => exact traced_of_children rfl (traced_bodyOf through _)
  next => exact traced_of_children rfl (headed (onItself _) (traced_bodyOf through _))
  next => exact traced_of_children rfl (traced_bodyOf through _)
  next => exact traced_of_children rfl (headed (onItself _) (traced_bodyOf through _))
  next isCall => exact traced_callFrom through inside isCall own
  next => exact traced_of_children rfl (traced_bodyOf through _)
  next => exact traced_of_children rfl (traced_bodyOf through _)
  next => exact traced_chain _ _ through
  next => exact traced_chain _ _ through
  next => exact traced_modified _ through
  next => exact traced_modified _ through
  next => exact traced_ternaryOf through
  next => exact traced_caseFrom through
  next => exact traced_caseFrom through
  next => exact traced_returnFrom through
  next => exact traced_of_children rfl (headed (required _) (headed (required _) (by simp)))
  next => exact traced_of_children rfl (headed (required _) (headed (required _) (by simp)))
  next => exact traced_unaryFrom through
  next => exact traced_parenthesized through
  next =>
    refine traced_of_children rfl (headed (required _) ?_)
    intro node member
    obtain ⟨part, beside, rfl⟩ := List.mem_map.mp member
    exact (through_shownParts through (List.mem_filter.mp beside).1).node
  next => exact traced_leaf rfl rfl
  next => exact traced_leaf rfl rfl
  next => exact traced_leaf rfl rfl
  next => exact traced_leaf rfl rfl
  next => exact traced_leaf rfl rfl
  next => exact traced_leaf rfl rfl
  next => exact traced_leaf rfl rfl
  next => split <;> exact traced_leaf rfl rfl
  next => exact traced_leaf rfl rfl
  next => exact traced_of_children rfl shown

/-! ### Whole trees -/

theorem parts_read (source : Source) (tree : Concrete) :
    (read source tree).parts = readAll source tree.children := by
  cases tree
  rfl

theorem node_read (source : Source) (tree : Concrete) :
    (read source tree).node = build source tree (readAll source tree.children) := by
  cases tree
  rfl

theorem tracedThrough_read (tree : Concrete) (inside : Inside top tree) :
    TracedThrough source top (read source tree) := by
  have parts : ∀ part ∈ readAll source tree.children, TracedThrough source top part := by
    intro part member
    rw [readAll_eq_map] at member
    obtain ⟨child, isChild, rfl⟩ := List.mem_map.mp member
    -- the parts of a tree are smaller than the tree
    have smaller : sizeOf child < sizeOf tree := by
      have inList := List.sizeOf_lt_of_mem isChild
      cases tree
      simp only [Concrete.children] at inList
      simp
      omega
    exact tracedThrough_read child (inside.child isChild)
  refine .mk (by rwa [tree_read]) ?_ (parts_read source tree ▸ parts)
  rw [node_read]
  exact traced_build parts inside rfl
termination_by sizeOf tree

/-- Every call in a program is read off the concrete tree. -/
theorem origin_of_call {node : Node} (member : node ∈ (programOf source top).walk)
    (called : isCall node = true) : ReadOff source top node ∨ BareName source top node := by
  have traced : Traced source top (read source top).node := (tracedThrough_read top .here).node
  unfold programOf at member
  split at member
  next body loc isProgram => exact traced node (isProgram ▸ member) called
  next =>
    -- a tree that is no program is wrapped in one
    have wrapped : Traced source top (.program [(read source top).node]
        (read source top).node.loc) :=
      traced_of_children rfl (by simpa [Node.children] using traced)
    exact wrapped node member called

/-- Every call with arguments in a program is read off a call of the concrete tree. -/
theorem origin_of_mem_walk {node : Node} (member : node ∈ (programOf source top).walk)
    (arguments : hasArguments node = true) : ReadOff source top node := by
  have called : isCall node = true := by
    cases node <;> first | rfl | cases arguments
  rcases origin_of_call member called with isRead | ⟨name, -, -, rfl⟩
  · exact isRead
  · cases arguments

end SpecLint.Code
