import SpecLint.Proofs.Routine.Entries
import SpecLint.Proofs.Routine.Outline

/-!
# Amounts of readings

Something may be counted on a code tree by adding what each node has by itself. Of the nodes that a
walk enters, only conditionals, cases and assignments through operators have anything; the others,
such as arms, gathered patterns and blocks, pass on what they hold. Here such an amount is followed
down the concrete tree that the code tree is read from.

## Main result

`Additive.held_step`: a construct holds what it has by itself and what its entries hold.

## Proof strategy

A construct is built from the readings of its parts, and each way of choosing parts is the choice of
concrete nodes that `SpecLint.Proofs.Routine.Entries` makes. So there is one lemma for each way of
building a node, and the step puts them together kind by kind.
-/
namespace SpecLint.Routine

open SpecLint.Code

/-- Whether a node is one of those that may have something by themselves. -/
def decides : Node → Bool
  | .conditional .. | .caseOf .. | .opAssign .. => true
  | _ => false

/-- A node that is no definition has what it has by itself and what its children have. -/
structure Additive (amount own : Node → Nat) : Prop where
  entered : ∀ {node : Node}, isNestedScope node = false →
    amount node = own node + (node.children.map amount).sum
  silent : ∀ {node : Node}, isNestedScope node = false → decides node = false → own node = 0

/-- What the code node has that a concrete node is read as. -/
def held (amount : Node → Nat) (source : Source) (tree : Concrete) : Nat :=
  amount (read source tree).node

/-- What a concrete node has by itself; parentheses are read as what is between them. -/
def ownHeld (own : Node → Nat) (source : Source) (tree : Concrete) : Nat :=
  if tree.kind = "parenthesized_statements" then 0 else own (read source tree).node

/-- The further arms of a chain and its `else`. -/
def followers (source : Source) (tree : Concrete) : List Node × Option (List Node) :=
  (tree.child? "alternative").elim ([], none) fun further => chainRest source (read source further)

section Shapes

variable (source : Source) (tree : Concrete)

/-! ### Readings of choices -/

theorem part?_child? (field : String) :
    part? (readAll source tree.children) field = (tree.child? field).map (read source) :=
  part?_readAll source tree.children field

theorem nameOf_readAll (field : String) :
    nameOf source (readAll source tree.children) field =
      (tree.child? field).elim "" (textOf source) := by
  rw [nameOf, part?_child?]
  cases tree.child? field with
  | none => rfl
  | some child => rw [Option.map_some, Option.elim_some, Option.elim_some, tree_read]

theorem chainRest_elsif (isElsif : tree.kind = "elsif") :
    chainRest source (read source tree) =
      (chainArm source tree (readAll source tree.children) :: (followers source tree).1,
        (followers source tree).2) := by
  have isArm : (read source tree).kind = "elsif" := by rw [Reading.kind, tree_read, isElsif]
  have onward := part?_child? source tree "alternative"
  rw [chainRest, if_pos isArm, tree_read, parts_read, followers]
  cases next : tree.child? "alternative" with
  | none =>
    rw [next, Option.map_none] at onward
    split
    next reading found =>
      rw [found] at onward
      cases onward
    next => rfl
  | some further =>
    rw [next, Option.map_some] at onward
    split
    next reading found =>
      obtain rfl : read source further = reading := Option.some.inj (onward.symm.trans found)
      rfl
    next missing =>
      rw [missing] at onward
      cases onward

theorem chainRest_end (isElse : tree.kind ≠ "elsif") :
    chainRest source (read source tree) = ([], some (statements source (read source tree))) := by
  have noArm : (read source tree).kind ≠ "elsif" := by rwa [Reading.kind, tree_read]
  rw [chainRest, if_neg noArm]

theorem chain_readAll (form : Branching) (negated : Bool) :
    chain source form negated tree (readAll source tree.children) =
      .conditional form
        (chainArm source tree (readAll source tree.children) :: (followers source tree).1)
        (followers source tree).2 negated (locationOf source tree) := by
  rw [chain, part?_child?, followers]
  cases tree.child? "alternative" <;> rfl

theorem caseFrom_readAll :
    caseFrom source tree (readAll source tree.children) =
      .caseOf (nodeOf (part? (readAll source tree.children) "value"))
        (((tree.namedChildren.filter isCaseArm).map (read source)).map (caseArm source))
        (((tree.namedChildren.filter isElse).map (read source)).getLast?.map (statements source))
        (locationOf source tree) := by
  have arms : (namedParts (readAll source tree.children)).filter
      (fun part => part.kind = "when" ∨ part.kind = "in_clause") =
        (tree.namedChildren.filter isCaseArm).map (read source) := by
    rw [namedParts_readAll, ← readAll_eq_map]
    exact filter_readAll source tree.namedChildren isCaseArm
  have elses : (namedParts (readAll source tree.children)).filter (fun part => part.kind = "else") =
      (tree.namedChildren.filter isElse).map (read source) := by
    rw [namedParts_readAll, ← readAll_eq_map]
    exact filter_readAll source tree.namedChildren isElse
  rw [caseFrom, arms, elses]

theorem attached_readAll :
    ((part? (readAll source tree.children) "block").or
      ((namedParts (readAll source tree.children)).find? fun part =>
        part.kind = "do_block" ∨ part.kind = "block")) =
      (attachedBlock? tree).map (read source) := by
  have first : (namedParts (readAll source tree.children)).find?
      (fun part => part.kind = "do_block" ∨ part.kind = "block") =
        (tree.namedChildren.find? isBlock).map (read source) := by
    rw [namedParts_readAll, List.find?_map]
    congr 2
    funext child
    simp only [Function.comp_apply, Reading.kind, tree_read]
    rfl
  rw [part?_child?, first, attachedBlock?]
  cases tree.child? "block" <;> rfl

/-- The value of a return that is made of some values. -/
def returnedOf (values : List Node) (loc : Option Location) : Node :=
  match values with
  | [] => .returned none loc
  | [value] => .returned (some value) loc
  | _ => .returned (some (.other "values" values loc)) loc

theorem returnFrom_readAll :
    returnFrom source tree (readAll source tree.children) =
      returnedOf (((returnParts tree).map (read source)).map (·.node))
        (locationOf source tree) := by
  have values : ((namedParts (readAll source tree.children)).flatMap fun part =>
      if part.kind = "argument_list" then (namedParts part.parts).map (·.node)
      else if skippedKinds.contains part.kind then []
      else [part.node]) =
        ((returnParts tree).map (read source)).map (·.node) := by
    rw [namedParts_readAll, List.flatMap_map, returnParts, List.map_flatMap, List.map_flatMap]
    congr 1
    funext child
    simp only [Reading.kind, tree_read, parts_read, namedParts_readAll]
    split
    · rfl
    · split <;> rfl
  rw [returnFrom, values]
  rfl

theorem passes_returnFrom (parts : List Reading) :
    isNestedScope (returnFrom source tree parts) = false ∧
      decides (returnFrom source tree parts) = false := by
  unfold returnFrom
  dsimp only
  split <;> exact ⟨rfl, rfl⟩

theorem passes_unaryFrom (parts : List Reading) :
    isNestedScope (unaryFrom source tree parts) = false ∧
      decides (unaryFrom source tree parts) = false := by
  unfold unaryFrom
  dsimp only
  split
  · split <;> exact ⟨rfl, rfl⟩
  · exact ⟨rfl, rfl⟩

end Shapes

namespace Additive

variable {amount own : Node → Nat} (adds : Additive amount own)

/-! ### Nodes that have nothing by themselves -/

include adds

theorem passed {node : Node} (entered : isNestedScope node = false)
    (silent : decides node = false) :
    amount node = (node.children.map amount).sum := by
  rw [adds.entered entered, adds.silent entered silent, Nat.zero_add]

theorem leaf {node : Node} (entered : isNestedScope node = false) (silent : decides node = false)
    (leaf : node.children = []) : amount node = 0 := by
  rw [adds.passed entered silent, leaf]
  rfl

theorem single {node inner : Node} (entered : isNestedScope node = false)
    (silent : decides node = false) (only : node.children = [inner]) :
    amount node = amount inner := by
  rw [adds.passed entered silent, only, List.map_singleton, List.sum_singleton]

theorem arm (condition : Option Node) (body : List Node) (loc : Option Location) :
    amount (.arm condition body loc) =
      (condition.toList.map amount).sum + (body.map amount).sum := by
  rw [adds.passed rfl rfl]
  simp [Node.children]

theorem other (kind : String) (children : List Node) (loc : Option Location) :
    amount (.other kind children loc) = (children.map amount).sum :=
  adds.passed rfl rfl

theorem assign (target value : Node) (loc : Option Location) :
    amount (.assign target value loc) = amount target + amount value := by
  rw [adds.passed rfl rfl]
  simp [Node.children]

theorem opAssign (target value : Node) (operator : String) (loc : Option Location) :
    amount (.opAssign target operator value loc) =
      own (.opAssign target operator value loc) + (amount target + amount value) := by
  rw [adds.entered rfl]
  simp [Node.children]

theorem index (receiver : Node) (args : List Node) (loc : Option Location) :
    amount (.index receiver args loc) = amount receiver + (args.map amount).sum := by
  rw [adds.passed rfl rfl]
  simp [Node.children]

theorem returned (value : Option Node) (loc : Option Location) :
    amount (.returned value loc) = (value.toList.map amount).sum :=
  adds.passed rfl rfl

/-! ### Statements -/

omit adds in
theorem sum_nodes (source : Source) (trees : List Concrete) :
    (((trees.map (read source)).map (·.node)).map amount).sum =
      sumOver (held amount source) trees := by
  rw [List.map_map, List.map_map]
  rfl

variable (source : Source) (tree : Concrete)

theorem held_identifier (isIdentifier : tree.kind = "identifier") :
    held amount source tree = 0 := by
  rw [held, node_read, build, isIdentifier]
  exact adds.leaf rfl rfl rfl

theorem statement : amount (statement source (read source tree)) = held amount source tree := by
  unfold Code.statement
  split
  next isIdentifier =>
    rw [Reading.kind, tree_read] at isIdentifier
    rw [adds.held_identifier source tree isIdentifier]
    exact adds.leaf rfl rfl rfl
  next => rfl

theorem sum_statement (trees : List Concrete) :
    (((trees.map (read source)).map (Code.statement source)).map amount).sum =
      sumOver (held amount source) trees := by
  rw [List.map_map, List.map_map, sumOver]
  congr 1
  exact List.map_congr_left fun tree _ => adds.statement source tree

theorem held_sequence (isSequence : sequenceKinds.contains tree.kind = true) :
    held amount source tree = sumOver (held amount source) tree.shown := by
  simp only [sequenceKinds, List.contains_iff_mem, List.mem_cons, List.not_mem_nil,
    or_false] at isSequence
  rw [held, node_read, build]
  rcases isSequence with kind | kind | kind | kind | kind <;> rw [kind]
  case inr.inr.inr.inr =>
    show amount (.program _ _) = _
    rw [adds.passed rfl rfl, shownParts_readAll]
    exact adds.sum_statement source tree.shown
  all_goals
    show amount (.other _ _ _) = _
    rw [adds.other, shownParts_readAll, sum_nodes]

theorem sum_statements :
    ((statements source (read source tree)).map amount).sum = held amount source tree := by
  unfold statements
  split
  next isSequence =>
    rw [Reading.kind, tree_read] at isSequence
    rw [parts_read, shownParts_readAll, adds.sum_statement,
      adds.held_sequence source tree isSequence]
  next => rw [List.map_singleton, List.sum_singleton, adds.statement]

/-! ### Parts of a construct -/

omit adds in
theorem sum_nodeOf (field : String) :
    ((nodeOf (part? (readAll source tree.children) field)).toList.map amount).sum =
      (tree.child? field).elim 0 (held amount source) := by
  rw [part?_child?]
  cases tree.child? field <;> rfl

theorem requiredNode (field : String) :
    amount (requiredNode (part? (readAll source tree.children) field)) =
      (tree.child? field).elim 0 (held amount source) := by
  rw [part?_child?]
  cases tree.child? field with
  | none => exact adds.leaf rfl rfl rfl
  | some child => simp [Code.requiredNode, nodeOf, held]

theorem sum_statementsOf (field : String) :
    ((statementsOf source (part? (readAll source tree.children) field)).map amount).sum =
      (tree.child? field).elim 0 (held amount source) := by
  rw [part?_child?]
  cases tree.child? field with
  | none => rfl
  | some child => simp [statementsOf, adds.sum_statements]

theorem sum_bodyOf (headers : List String) :
    ((bodyOf source (readAll source tree.children) headers).map amount).sum =
      sumOver (held amount source) (tree.bodyParts headers) := by
  rw [bodyOf, part?_child?, Concrete.bodyParts]
  cases tree.child? "body" with
  | none => rw [Option.map_none, partsBeside_readAll, adds.sum_statement]
  | some body => simp [adds.sum_statements]

/-! ### Chains -/

theorem chainArm :
    amount (chainArm source tree (readAll source tree.children)) =
      sumOver (held amount source) (tree.under ["condition", "consequence"]) := by
  rw [Code.chainArm, adds.arm, sum_nodeOf, adds.sum_statementsOf]
  simp

theorem sum_chainRest (alternative : Concrete) :
    let rest := chainRest source (read source alternative)
    ((rest.1 ++ rest.2.getD []).map amount).sum =
      sumOver (held amount source) (alternativeParts alternative) := by
  -- along the alternatives, each of which is a child of the one before
  induction alternative using alternativeArms.induct with
  | case1 alternative isElsif further next ih =>
    dsimp only at ih ⊢
    rw [chainRest_elsif source alternative isElsif, alternativeParts_elsif alternative isElsif,
      followers, chainParts, next]
    simp only [Option.elim_some, List.cons_append, List.map_cons, List.sum_cons, ih,
      adds.chainArm, sumOver_append]
  | case2 alternative isElsif next =>
    rw [chainRest_elsif source alternative isElsif, alternativeParts_elsif alternative isElsif,
      followers, chainParts, next]
    simp only [Option.elim_none, Option.getD_none, List.append_nil, List.map_cons, List.map_nil,
      List.sum_singleton, adds.chainArm]
  | case3 alternative isElse =>
    rw [chainRest_end source alternative isElse, alternativeParts, if_neg isElse]
    simp only [Option.getD_some, List.nil_append, adds.sum_statements, sumOver, List.map_cons,
      List.map_nil, List.sum_singleton]

theorem sum_followers :
    (((followers source tree).1 ++ (followers source tree).2.getD []).map amount).sum =
      sumOver (held amount source) ((tree.child? "alternative").elim [] alternativeParts) := by
  unfold followers
  cases tree.child? "alternative" with
  | none => rfl
  | some further => exact adds.sum_chainRest source further

theorem chain (form : Branching) (negated : Bool) :
    amount (chain source form negated tree (readAll source tree.children)) =
      own (Code.chain source form negated tree (readAll source tree.children)) +
        sumOver (held amount source) (chainParts tree) := by
  rw [chain_readAll, adds.entered rfl, Node.children, List.cons_append, List.map_cons,
    List.sum_cons, adds.sum_followers, adds.chainArm, chainParts, sumOver_append]

/-! ### Other constructs -/

theorem modified (negated : Bool) :
    amount (modified source negated tree (readAll source tree.children)) =
      own (Code.modified source negated tree (readAll source tree.children)) +
        sumOver (held amount source) (tree.under ["body", "condition"]) := by
  have body : (((part? (readAll source tree.children) "body").toList.map
      (Code.statement source)).map amount).sum =
        (tree.child? "body").elim 0 (held amount source) := by
    rw [part?_child?]
    cases tree.child? "body" with
    | none => rfl
    | some child => simp [adds.statement]
  have arm (loc : Option Location) :
      amount (.arm (nodeOf (part? (readAll source tree.children) "condition"))
        ((part? (readAll source tree.children) "body").toList.map (Code.statement source)) loc) =
      sumOver (held amount source) (tree.under ["body", "condition"]) := by
    rw [adds.arm, sum_nodeOf, body, Nat.add_comm]
    simp
  rw [Code.modified, adds.entered rfl, ← arm]
  exact congrArg (own _ + ·) List.sum_singleton

theorem ternaryOf :
    amount (ternaryOf source tree (readAll source tree.children)) =
      own (Code.ternaryOf source tree (readAll source tree.children)) +
        sumOver (held amount source) (tree.under ["condition", "consequence", "alternative"]) := by
  rw [Code.ternaryOf, adds.entered rfl]
  simp only [Node.children, Option.getD_some, List.cons_append, List.nil_append, List.map_cons,
    List.sum_cons, adds.arm, sum_nodeOf, sumOver_under_cons, sumOver_under_nil, Nat.add_assoc]
  rfl

theorem caseArm :
    amount (caseArm source (read source tree)) =
      sumOver (held amount source) (caseArmParts tree) := by
  have patterns : amount (.other "patterns"
      ((partsNamed (readAll source tree.children) "pattern").map (·.node))
      (locationOf source tree)) =
      sumOver (held amount source) (tree.children.filter (·.field == some "pattern")) := by
    rw [adds.other, partsNamed_readAll, sum_nodes]
  rw [Code.caseArm, parts_read, tree_read, adds.arm, adds.sum_statementsOf, caseArmParts,
    sumOver_append]
  simp [patterns]

theorem caseFrom :
    amount (caseFrom source tree (readAll source tree.children)) =
      own (Code.caseFrom source tree (readAll source tree.children)) +
        sumOver (held amount source) (caseParts tree) := by
  have inArms : ((((tree.namedChildren.filter isCaseArm).map (read source)).map
      (Code.caseArm source)).map amount).sum =
        sumOver (held amount source)
          ((tree.namedChildren.filter isCaseArm).flatMap caseArmParts) := by
    rw [List.map_map, List.map_map, sumOver, List.map_flatMap, sum_flatMap]
    congr 1
    exact List.map_congr_left fun arm _ => adds.caseArm source arm
  have inElse : (((((tree.namedChildren.filter isElse).map (read source)).getLast?.map
      (statements source)).getD []).map amount).sum =
        sumOver (held amount source) (tree.namedChildren.filter isElse).getLast?.toList := by
    rw [List.getLast?_map]
    cases (tree.namedChildren.filter isElse).getLast? with
    | none => rfl
    | some last => simp [adds.sum_statements, sumOver]
  rw [caseFrom_readAll, adds.entered rfl]
  simp only [Node.children, List.map_append, List.sum_append, inArms, inElse, sum_nodeOf]
  simp [caseParts, Nat.add_assoc]

theorem blockOf :
    amount (blockOf source (read source tree)) =
      sumOver (held amount source) (tree.bodyParts ["parameters"]) := by
  rw [Code.blockOf, parts_read, adds.passed rfl rfl]
  exact adds.sum_bodyOf source tree _

theorem callFrom :
    amount (callFrom source tree (readAll source tree.children)) =
      sumOver (held amount source) (callParts tree) := by
  have args : (((part? (readAll source tree.children) "arguments").elim []
      fun part => (shownParts part.parts).map (·.node)).map amount).sum =
        sumOver (held amount source) ((tree.child? "arguments").elim [] (·.shown)) := by
    rw [part?_child?]
    cases tree.child? "arguments" with
    | none => rfl
    | some list =>
      rw [Option.map_some, Option.elim_some, Option.elim_some, parts_read, shownParts_readAll,
        sum_nodes]
  have block : ((((attachedBlock? tree).map (read source)).map (Code.blockOf source)).toList.map
      amount).sum =
        sumOver (held amount source)
          ((attachedBlock? tree).elim [] (·.bodyParts ["parameters"])) := by
    cases attachedBlock? tree with
    | none => rfl
    | some attached => simp [adds.blockOf]
  rw [Code.callFrom, attached_readAll, adds.passed rfl rfl]
  simp only [Node.children, List.map_append, List.sum_append, sum_nodeOf, args, block]
  simp [callParts, Nat.add_assoc]

theorem returnFrom :
    amount (returnFrom source tree (readAll source tree.children)) =
      sumOver (held amount source) (returnParts tree) := by
  rw [returnFrom_readAll, ← sum_nodes]
  unfold returnedOf
  split
  next empty => simp [empty, adds.returned]
  next value one => simp [one, adds.returned]
  next several =>
    rw [adds.returned, Option.toList_some, List.map_singleton, List.sum_singleton, adds.other]

theorem unaryFrom :
    amount (unaryFrom source tree (readAll source tree.children)) =
      sumOver (held amount source) (tree.under ["operand"]) := by
  have operand : amount (Code.requiredNode (part? (readAll source tree.children) "operand")) =
      sumOver (held amount source) (tree.under ["operand"]) := by
    rw [adds.requiredNode]
    simp
  unfold Code.unaryFrom
  dsimp only
  split
  · split <;> exact (adds.single rfl rfl rfl).trans operand
  · exact (adds.single rfl rfl rfl).trans operand

theorem parenthesized :
    amount (parenthesized source tree (readAll source tree.children)) =
      sumOver (held amount source) tree.shown := by
  unfold Code.parenthesized
  rw [shownParts_readAll, ← sum_nodes]
  split
  next inner one => simp [one]
  next => rw [adds.other]

/-! ### The step -/

/-- What a construct holds is what it has by itself and what the nodes hold that it is read from. -/
theorem held_step (entered : isDefinition tree = false) :
    held amount source tree =
      ownHeld own source tree + sumOver (held amount source) (entries tree) := by
  have required := adds.requiredNode source tree
  have both : (tree.child? "left").elim 0 (held amount source) +
      (tree.child? "right").elim 0 (held amount source) =
        sumOver (held amount source) (tree.under ["left", "right"]) := by simp
  have object : (tree.child? "object").elim 0 (held amount source) =
      sumOver (held amount source) (tree.under ["object"]) := by simp
  have leaf {node : Node} (unnested : isNestedScope node = false) (silent : decides node = false)
      (last : node.children = []) :
      amount node = own node + sumOver (held amount source) [] := by
    rw [adds.leaf unnested silent last, adds.silent unnested silent]
    rfl
  have passed {node : Node} {parts : List Concrete} (unnested : isNestedScope node = false)
      (silent : decides node = false)
      (sum : amount node = sumOver (held amount source) parts) :
      amount node = own node + sumOver (held amount source) parts := by
    rw [adds.silent unnested silent, Nat.zero_add, sum]
  have closed {kind : String} (isKind : tree.kind = kind)
      (isNested : definitionKinds.contains kind = true) : False := by
    rw [isDefinition, isKind, isNested] at entered
    cases entered
  have same : ∀ node : Node, (read source tree).node = node →
      ownHeld own source tree = if tree.kind = "parenthesized_statements" then 0 else own node := by
    rintro _ rfl
    rfl
  rw [held, same _ (node_read source tree), node_read]
  unfold build entries
  dsimp only
  split
  -- the cases stand in the order of the kinds
  next kind =>
    rw [kind]
    refine passed rfl rfl ((adds.passed rfl rfl).trans ?_)
    rw [shownParts_readAll]
    exact adds.sum_statement source tree.shown
  next kind => exact (closed kind rfl).elim
  next kind => exact (closed kind rfl).elim
  next kind => exact (closed kind rfl).elim
  next kind => exact (closed kind rfl).elim
  next kind => exact (closed kind rfl).elim
  next kind => rw [kind]; exact passed rfl rfl (adds.callFrom source tree)
  next kind =>
    rw [kind]
    exact passed rfl rfl ((adds.passed rfl rfl).trans (adds.sum_bodyOf source tree _))
  next kind =>
    rw [kind]
    exact passed rfl rfl ((adds.passed rfl rfl).trans (adds.sum_bodyOf source tree _))
  next kind => rw [kind]; exact adds.chain source tree _ _
  next kind => rw [kind]; exact adds.chain source tree _ _
  next kind => rw [kind]; exact adds.modified source tree _
  next kind => rw [kind]; exact adds.modified source tree _
  next kind => rw [kind]; exact adds.ternaryOf source tree
  next kind => rw [kind]; exact adds.caseFrom source tree
  next kind => rw [kind]; exact adds.caseFrom source tree
  next kind =>
    rw [kind]
    obtain ⟨unnested, silent⟩ := passes_returnFrom source tree (readAll source tree.children)
    exact passed unnested silent (adds.returnFrom source tree)
  next kind =>
    rw [kind]
    refine (adds.opAssign ..).trans (congrArg (own _ + ·) ?_)
    rw [required, required, both]
    rfl
  next kind =>
    rw [kind]
    refine passed rfl rfl ?_
    rw [adds.assign, required, required, both]
    rfl
  next kind =>
    rw [kind]
    obtain ⟨unnested, silent⟩ := passes_unaryFrom source tree (readAll source tree.children)
    exact passed unnested silent (adds.unaryFrom source tree)
  next kind =>
    rw [kind, adds.parenthesized]
    exact (Nat.zero_add _).symm
  next kind =>
    rw [kind]
    refine passed rfl rfl ?_
    rw [adds.index, required, partsBeside_readAll, sum_nodes, object, ← sumOver_append]
    rfl
  next kind => rw [kind]; exact leaf rfl rfl rfl
  next kind => rw [kind]; exact leaf rfl rfl rfl
  next kind => rw [kind]; exact leaf rfl rfl rfl
  next kind => rw [kind]; exact leaf rfl rfl rfl
  next kind => rw [kind]; exact leaf rfl rfl rfl
  next kind => rw [kind]; exact leaf rfl rfl rfl
  next kind => rw [kind]; exact leaf rfl rfl rfl
  next kind =>
    rw [kind]
    cases literalContent? source (readAll source tree.children) <;> exact leaf rfl rfl rfl
  next kind => rw [kind]; exact leaf rfl rfl rfl
  next =>
    -- no other kind has a rule of its own
    simp only [*]
    have noLeaf : leafKinds.contains tree.kind = false := by
      simp only [leafKinds, List.contains_cons, List.contains_nil, Bool.or_false,
        Bool.or_eq_false_iff, beq_eq_false_iff_ne]
      and_intros <;> assumption
    rw [adds.silent rfl rfl, ite_self, adds.other, shownParts_readAll, sum_nodes, noLeaf]
    exact (Nat.zero_add _).symm

end Additive

end SpecLint.Routine
