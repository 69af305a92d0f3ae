import SpecLint.Proofs.Routine.Tally

/-!
# Decisions of a concrete tree

The decision nodes of a concrete tree are its conditionals, cases and conditional assignments. A
construct is not read from all that stands below it: comments and heredoc bodies are skipped, and
so is what stands in a literal or a name, among the parameters of a block, in the guard of a clause
and in the name of a call. In trees of the shape that the grammar gives nothing else is lost.

## Main result

`branches_of_concrete`: the branches of a routine are the decisions that stand in its body, outside
these places.

## Proof strategy

The count is a sum over entries, some of which are not children: the items of a list of arguments,
the statements of a block, the parts of an arm. The constructs between have no weight of their own,
so in a tree of the right shape the entries of a construct amount to its children.
-/
namespace SpecLint.Routine

open SpecLint.Code
open SpecLint.Code.Concrete (construct token)

/-! ### Places -/

/-- Fields of a construct that it is not read from. -/
def droppedFields : String → List String
  | "do_block" | "block" => ["parameters"]
  | "call" => ["method"]
  | "in_clause" => ["guard"]
  | _ => []

/-- Whether a child is among those its parent is read from, directly or through an arm, a list of
arguments or a block. -/
def isRead (parent child : Concrete) : Bool :=
  child.isShown && !leafKinds.contains parent.kind &&
    !child.field.elim false (droppedFields parent.kind).contains

/-- Whether a child stands for a construct, wherever it stands. -/
def isConstruct (_parent child : Concrete) : Bool := child.named

mutual
/-- The weights of all nodes at or below a node, going down to the children that are taken into
account, and into no definition. -/
def decisions (source : Source) (takes : Concrete → Concrete → Bool) : Concrete → Nat
  | .node kind named missing start stop field children =>
    let tree := Concrete.node kind named missing start stop field children
    if isDefinition tree then 0
    else weight source tree + decisionsBelow source takes tree children

def decisionsBelow (source : Source) (takes : Concrete → Concrete → Bool) (parent : Concrete) :
    List Concrete → Nat
  | [] => 0
  | child :: rest =>
    (if takes parent child then decisions source takes child else 0) +
      decisionsBelow source takes parent rest
end

section Decisions

variable (source : Source) (takes : Concrete → Concrete → Bool)

theorem decisionsBelow_eq (parent : Concrete) (trees : List Concrete) :
    decisionsBelow source takes parent trees =
      sumOver (decisions source takes) (trees.filter (takes parent)) := by
  induction trees with
  | nil => rfl
  | cons tree rest ih =>
    rw [decisionsBelow, ih, List.filter_cons]
    split <;> simp [sumOver]

theorem decisions_eq (tree : Concrete) :
    decisions source takes tree =
      if isDefinition tree then 0
      else weight source tree +
        sumOver (decisions source takes) (tree.children.filter (takes tree)) := by
  cases tree
  rw [decisions, decisionsBelow_eq]
  rfl

end Decisions

/-! ### Shapes -/

/-- What a construct consists of, in the trees that the grammar gives: the children that count are
those with certain fields, in this order. -/
def Regular (tree : Concrete) : Prop :=
  match tree.kind with
  | "call" =>
    tree.shown = tree.under ["receiver", "method", "arguments", "block"] ∧
      (∀ list, tree.child? "arguments" = some list → list.kind = "argument_list") ∧
      attachedBlock? tree = tree.child? "block" ∧
      ∀ block, tree.child? "block" = some block → isBlock block = true
  | "do_block" | "block" =>
    (tree.child? "body").isSome → tree.shown = tree.under ["parameters", "body"]
  | "if" | "unless" | "elsif" | "conditional" =>
    tree.shown = tree.under ["condition", "consequence", "alternative"]
  | "if_modifier" | "unless_modifier" => tree.shown = tree.under ["body", "condition"]
  | "case" | "case_match" =>
    tree.shown = tree.under ["value"] ++ tree.namedChildren.filter isCaseArm ++
      (tree.namedChildren.filter isElse).getLast?.toList
  | "when" =>
    tree.shown = tree.children.filter (·.field == some "pattern") ++ tree.under ["body"]
  | "in_clause" =>
    tree.shown = tree.children.filter (·.field == some "pattern") ++ tree.under ["guard", "body"]
  | "return" =>
    ∀ list ∈ tree.namedChildren, list.kind = "argument_list" →
      ∀ item ∈ list.namedChildren, item.isShown = true ∨ item.children = []
  | "operator_assignment" | "assignment" => tree.shown = tree.under ["left", "right"]
  | "unary" => tree.shown = tree.under ["operand"]
  | "element_reference" => tree.shown = tree.under ["object"] ++ tree.shownBeside ["object"]
  | _ => True

/-- A tree of the shape that the grammar gives: each construct consists of what it should, and a
clause is read only as an arm of a case. -/
structure Shaped (tree : Concrete) : Prop where
  regular : ∀ inner, Inside tree inner → Regular inner
  clauses : ∀ inner, Inside tree inner → ∀ entry ∈ entries inner, entry.kind ≠ "in_clause"

theorem Shaped.inside {tree inner : Concrete} (shaped : Shaped tree) (inside : Inside tree inner) :
    Shaped inner where
  regular deep deeper := shaped.regular deep (inside.trans deeper)
  clauses deep deeper := shaped.clauses deep (inside.trans deeper)

theorem Shaped.child {tree child : Concrete} (shaped : Shaped tree)
    (member : child ∈ tree.children) : Shaped child :=
  shaped.inside (.child .here member)

/-! ### What a construct is read from -/

/-- The children that a construct is read from. -/
def readChildren (tree : Concrete) : List Concrete := tree.children.filter (isRead tree)

theorem readChildren_of_no_leaf {tree : Concrete} (noLeaf : leafKinds.contains tree.kind = false) :
    readChildren tree = tree.shownBeside (droppedFields tree.kind) := by
  rw [readChildren, Concrete.shownBeside, Concrete.shown, List.filter_filter]
  congr 1
  funext child
  rw [isRead, noLeaf, Bool.not_false, Bool.and_true, Bool.and_comm]

theorem readChildren_leaf {tree : Concrete} (leaf : leafKinds.contains tree.kind = true) :
    readChildren tree = [] := by
  rw [readChildren, List.filter_eq_nil_iff]
  intro child _
  rw [isRead, leaf]
  simp

variable (source : Source)

/-- The decisions that stand where constructs are read from. -/
def readDecisions (tree : Concrete) : Nat := decisions source isRead tree

theorem readDecisions_eq (tree : Concrete) :
    readDecisions source tree =
      if isDefinition tree then 0
      else weight source tree + sumOver (readDecisions source) (readChildren tree) :=
  decisions_eq source isRead tree

variable {source} {tree : Concrete}

/-- A construct with neither a weight nor a rule of its own. -/
theorem readDecisions_plain (isPlain : tree.kind = "argument_list" ∨ tree.kind = "elsif") :
    readDecisions source tree = sumOver (readDecisions source) tree.shown := by
  rw [readDecisions_eq, isDefinition, weight]
  rcases isPlain with kind | kind <;>
    · rw [readChildren_of_no_leaf (by rw [kind]; decide), kind]
      show 0 + sumOver _ (tree.shownBeside []) = _
      rw [Concrete.shownBeside_nil, Nat.zero_add]

theorem shownBeside_parameters (regular : Regular tree) (block : isBlock tree = true) :
    tree.shownBeside ["parameters"] = tree.bodyParts ["parameters"] := by
  cases found : tree.child? "body" with
  | none => simp [Concrete.bodyParts, found]
  | some body =>
    have parts : tree.shown = tree.under ["parameters", "body"] := by
      have hasBody : (tree.child? "body").isSome = true := by rw [found]; rfl
      unfold Regular at regular
      rcases of_decide_eq_true block with kind | kind <;> rw [kind] at regular <;>
        exact regular hasBody
    rw [Concrete.shownBeside, parts, Concrete.filter_under]
    simp [Concrete.bodyParts, Concrete.under, found]

theorem readChildren_block (regular : Regular tree) (block : isBlock tree = true) :
    readChildren tree = tree.bodyParts ["parameters"] := by
  rw [← shownBeside_parameters regular block]
  rcases of_decide_eq_true block with kind | kind <;>
    · rw [readChildren_of_no_leaf (by rw [kind]; decide), kind]
      rfl

theorem readDecisions_block (regular : Regular tree) (block : isBlock tree = true) :
    readDecisions source tree =
      sumOver (readDecisions source) (tree.bodyParts ["parameters"]) := by
  rw [readDecisions_eq, isDefinition, weight, readChildren_block regular block]
  rcases of_decide_eq_true block with kind | kind <;>
    · rw [kind]
      exact Nat.zero_add _

/-- An arm is read from its patterns and its body. -/
theorem readDecisions_caseArm (regular : Regular tree) (isArm : isCaseArm tree = true) :
    readDecisions source tree = sumOver (readDecisions source) (caseArmParts tree) := by
  rw [readDecisions_eq, isDefinition, weight]
  unfold Regular at regular
  rcases of_decide_eq_true isArm with kind | kind
  · have parts : readChildren tree = caseArmParts tree := by
      rw [kind] at regular
      rw [readChildren_of_no_leaf (by rw [kind]; decide), kind]
      exact (tree.shownBeside_nil).trans regular
    rw [parts, kind]
    exact Nat.zero_add _
  -- the guard of a clause is the one part that is dropped
  · have parts : readChildren tree = caseArmParts tree := by
      rw [kind] at regular
      have whole : tree.shown = _ := regular
      rw [readChildren_of_no_leaf (by rw [kind]; decide), kind, Concrete.shownBeside, whole,
        List.filter_append]
      show List.filter (fun child : Concrete => !child.field.elim false ["guard"].contains) _ ++
        List.filter (fun child : Concrete => !child.field.elim false ["guard"].contains) _ = _
      rw [Concrete.filter_under, tree.filter_patterns ["guard"] (by decide)]
      rfl
    rw [parts, kind]
    exact Nat.zero_add _

theorem readDecisions_elsif (regular : Regular tree) (isElsif : tree.kind = "elsif") :
    readDecisions source tree =
      sumOver (readDecisions source) (tree.under ["condition", "consequence", "alternative"]) := by
  unfold Regular at regular
  rw [isElsif] at regular
  have parts : tree.shown = tree.under ["condition", "consequence", "alternative"] := regular
  rw [readDecisions_plain (.inr isElsif), parts]

/-- The alternatives of a chain are read from all that stands in them. -/
theorem sum_alternativeParts {alternative : Concrete} (shaped : Shaped alternative) :
    sumOver (readDecisions source) (alternativeParts alternative) =
      readDecisions source alternative := by
  -- along the alternatives, each of which is a child of the one before
  induction alternative using alternativeArms.induct with
  | case1 alternative isElsif further next ih =>
    have rest := ih (shaped.child (Concrete.mem_children_of_child? next))
    rw [alternativeParts_elsif alternative isElsif, chainParts, sumOver_append, next,
      Option.elim_some, rest, readDecisions_elsif (shaped.regular _ .here) isElsif]
    simp [next, Nat.add_assoc]
  | case2 alternative isElsif next =>
    rw [alternativeParts_elsif alternative isElsif, chainParts, sumOver_append, next,
      Option.elim_none, readDecisions_elsif (shaped.regular _ .here) isElsif]
    simp [next]
  | case3 alternative isElse =>
    rw [alternativeParts, if_neg isElse, sumOver_singleton]

theorem sum_chainParts (shaped : Shaped tree) :
    sumOver (readDecisions source) (chainParts tree) =
      sumOver (readDecisions source)
        (tree.under ["condition", "consequence", "alternative"]) := by
  rw [chainParts, sumOver_append]
  cases next : tree.child? "alternative" with
  | none => simp [next]
  | some alternative =>
    have inside := Concrete.mem_children_of_child? next
    rw [Option.elim_some, sum_alternativeParts (shaped.child inside)]
    simp [next, Nat.add_assoc]

theorem sum_callParts (shaped : Shaped tree) (isCall : tree.kind = "call") :
    sumOver (readDecisions source) (callParts tree) =
      sumOver (readDecisions source) (tree.under ["receiver", "arguments", "block"]) := by
  have regular := shaped.regular tree .here
  unfold Regular at regular
  rw [isCall] at regular
  obtain ⟨-, lists, sameBlock, blocks⟩ := regular
  have arguments : sumOver (readDecisions source)
      ((tree.child? "arguments").elim [] (·.shown)) =
        (tree.child? "arguments").elim 0 (readDecisions source) := by
    cases found : tree.child? "arguments" with
    | none => rfl
    | some list => exact (readDecisions_plain (.inl (lists list found))).symm
  have block : sumOver (readDecisions source)
      ((attachedBlock? tree).elim [] (·.bodyParts ["parameters"])) =
        (tree.child? "block").elim 0 (readDecisions source) := by
    rw [sameBlock]
    cases found : tree.child? "block" with
    | none => rfl
    | some block =>
      have inside := Concrete.mem_children_of_child? found
      exact (readDecisions_block ((shaped.child inside).regular _ .here) (blocks block found)).symm
  rw [callParts, sumOver_append, sumOver_append, arguments, block]
  simp [Nat.add_assoc]

theorem sum_caseParts (shaped : Shaped tree) :
    sumOver (readDecisions source) (caseParts tree) =
      sumOver (readDecisions source) (tree.under ["value"] ++
        tree.namedChildren.filter isCaseArm ++
          (tree.namedChildren.filter isElse).getLast?.toList) := by
  have arms : sumOver (readDecisions source)
      ((tree.namedChildren.filter isCaseArm).flatMap caseArmParts) =
        sumOver (readDecisions source) (tree.namedChildren.filter isCaseArm) := by
    rw [sumOver, List.map_flatMap, sum_flatMap, sumOver]
    congr 1
    apply List.map_congr_left
    intro arm member
    obtain ⟨isNamed, isArm⟩ := List.mem_filter.mp member
    have inside := Concrete.mem_children_of_namedChildren isNamed
    exact (readDecisions_caseArm ((shaped.child inside).regular _ .here) isArm).symm
  rw [caseParts, sumOver_append, sumOver_append, arms, sumOver_append, sumOver_append]

/-- Comments and the like hold no decisions. -/
theorem readDecisions_skipped (skipped : skippedKinds.contains tree.kind = true)
    (childless : tree.children = []) : readDecisions source tree = 0 := by
  rw [readDecisions_eq, isDefinition, weight, readChildren, childless]
  simp only [skippedKinds, List.contains_iff_mem, List.mem_cons, List.not_mem_nil,
    or_false] at skipped
  rcases skipped with kind | kind | kind <;> rw [kind] <;> rfl

theorem sum_returnParts (shaped : Shaped tree) (isReturn : tree.kind = "return") :
    sumOver (readDecisions source) (returnParts tree) =
      sumOver (readDecisions source) tree.shown := by
  have regular := shaped.regular tree .here
  unfold Regular at regular
  rw [isReturn] at regular
  -- a list amounts to what its items do, as what is skipped among them holds nothing
  have items {list : Concrete} (isNamed : list ∈ tree.namedChildren)
      (isList : list.kind = "argument_list") :
      sumOver (readDecisions source) list.namedChildren = readDecisions source list := by
    rw [readDecisions_plain (.inl isList), Concrete.shown_eq_filter, sumOver_filter_of_zero]
    intro item isItem isSkipped
    have skipped : skippedKinds.contains item.kind = true := by simpa using isSkipped
    rcases regular list isNamed isList item isItem with shown | childless
    · rw [Concrete.isShown, skipped, Bool.not_true, Bool.and_false] at shown
      cases shown
    · exact readDecisions_skipped skipped childless
  rw [Concrete.shown_eq_filter, sumOver_filter, returnParts, sumOver, List.map_flatMap, sum_flatMap,
    sumOver]
  congr 1
  apply List.map_congr_left
  intro child isNamed
  split
  next isList =>
    have kept : skippedKinds.contains child.kind = false := by
      rw [isList]
      decide
    rw [kept]
    exact items isNamed isList
  next => cases skippedKinds.contains child.kind <;> simp

/-- All entries of a construct together hold what its children do that it is read from. -/
theorem sum_entries (shaped : Shaped tree) (entered : isDefinition tree = false)
    (noClause : tree.kind ≠ "in_clause") :
    sumOver (readDecisions source) (entries tree) =
      sumOver (readDecisions source) (readChildren tree) := by
  have regular := shaped.regular tree .here
  have closed {kind : String} (isKind : tree.kind = kind)
      (isNested : definitionKinds.contains kind = true) : False := by
    rw [isDefinition, isKind, isNested] at entered
    cases entered
  -- where no field is dropped, a construct is read from all children that count
  have all {kind : String} (isKind : tree.kind = kind) (noLeaf : leafKinds.contains kind = false)
      (noneDropped : droppedFields kind = []) : readChildren tree = tree.shown := by
    rw [readChildren_of_no_leaf (by rw [isKind, noLeaf]), isKind, noneDropped,
      Concrete.shownBeside_nil]
  have block (isKind : isBlock tree = true) := readChildren_block regular isKind
  unfold Regular at regular
  unfold entries
  split
  -- the cases stand in the order of the kinds
  next kind => exact (closed kind rfl).elim
  next kind => exact (closed kind rfl).elim
  next kind => exact (closed kind rfl).elim
  next kind => exact (closed kind rfl).elim
  next kind => exact (closed kind rfl).elim
  next kind =>
    rw [kind] at regular
    obtain ⟨parts, -⟩ := regular
    rw [sum_callParts shaped kind, readChildren_of_no_leaf (by rw [kind]; decide), kind]
    show _ = sumOver _ (tree.shownBeside ["method"])
    rw [Concrete.shownBeside, parts, Concrete.filter_under]
    rfl
  next kind => rw [block (decide_eq_true (.inl kind))]
  next kind => rw [block (decide_eq_true (.inr kind))]
  next kind =>
    rw [kind] at regular
    rw [sum_chainParts shaped, all kind rfl rfl, regular]
  next kind =>
    rw [kind] at regular
    rw [sum_chainParts shaped, all kind rfl rfl, regular]
  next kind =>
    rw [kind] at regular
    rw [all kind rfl rfl, regular]
  next kind =>
    rw [kind] at regular
    rw [all kind rfl rfl, regular]
  next kind =>
    rw [kind] at regular
    rw [all kind rfl rfl, regular]
  next kind =>
    rw [kind] at regular
    rw [sum_caseParts shaped, all kind rfl rfl, regular]
  next kind =>
    rw [kind] at regular
    rw [sum_caseParts shaped, all kind rfl rfl, regular]
  next kind => rw [sum_returnParts shaped kind, all kind rfl rfl]
  next kind =>
    rw [kind] at regular
    rw [all kind rfl rfl, regular]
  next kind =>
    rw [kind] at regular
    rw [all kind rfl rfl, regular]
  next kind =>
    rw [kind] at regular
    rw [all kind rfl rfl, regular]
  next kind =>
    rw [kind] at regular
    rw [all kind rfl rfl, ← regular]
  next =>
    -- a leaf has no entries and is read from no child; all other kinds drop no field
    cases leaf : leafKinds.contains tree.kind with
    | true => rw [if_pos rfl, readChildren_leaf leaf]
    | false =>
      have noneDropped : droppedFields tree.kind = [] := by simp only [droppedFields, *]
      rw [if_neg Bool.false_ne_true, all rfl leaf noneDropped]

/-- In a tree of the shape that the grammar gives, what is counted are the decisions that stand
where constructs are read from. -/
theorem tally_eq_readDecisions {tree : Concrete} (shaped : Shaped tree)
    (noClause : tree.kind ≠ "in_clause") : tally source tree = readDecisions source tree := by
  rw [tally_eq, readDecisions_eq]
  cases entered : isDefinition tree with
  | true => rfl
  | false =>
    rw [if_neg Bool.false_ne_true, if_neg Bool.false_ne_true,
      ← sum_entries shaped entered noClause]
    refine congrArg (weight source tree + ·) (sumOver_congr ?_)
    intro entry isEntry
    have below := below_entries isEntry
    have smaller := below.sizeOf_lt
    exact tally_eq_readDecisions (shaped.inside below.inside)
      (shaped.clauses tree .here entry isEntry)
termination_by sizeOf tree

/-! ### Lost decisions -/

theorem named_of_isRead {parent child : Concrete} (taken : isRead parent child = true) :
    isConstruct parent child = true := by
  simp only [isRead, Concrete.isShown, Bool.and_eq_true] at taken
  exact taken.1.1.1

/-- Reading never makes up a decision. -/
theorem readDecisions_le (tree : Concrete) :
    readDecisions source tree ≤ decisions source isConstruct tree := by
  have each : ∀ child ∈ tree.children,
      (if isRead tree child then readDecisions source child else 0) ≤
        if isConstruct tree child then decisions source isConstruct child else 0 := by
    intro child isChild
    have smaller := Concrete.sizeOf_lt_of_mem_children isChild
    cases taken : isRead tree child with
    | true =>
      rw [named_of_isRead taken]
      exact readDecisions_le child
    | false => exact Nat.zero_le _
  rw [readDecisions_eq, decisions_eq, readChildren, sumOver_filter, sumOver_filter]
  split
  next => exact Nat.le_refl 0
  next => exact Nat.add_le_add_left (sumOver_le each) _
termination_by sizeOf tree

/-- Whether no decision stands where a construct is not read from. -/
def KeepsDecisions (source : Source) (tree : Concrete) : Prop :=
  ∀ parent, Inside tree parent → ∀ child ∈ parent.children, child.named = true →
    isRead parent child = false → decisions source isConstruct child = 0

theorem readDecisions_eq_decisions {tree : Concrete} (keeps : KeepsDecisions source tree) :
    readDecisions source tree = decisions source isConstruct tree := by
  have each : ∀ child ∈ tree.children,
      (if isRead tree child then readDecisions source child else 0) =
        if isConstruct tree child then decisions source isConstruct child else 0 := by
    intro child isChild
    have smaller := Concrete.sizeOf_lt_of_mem_children isChild
    have below : KeepsDecisions source child := fun parent inside =>
      keeps parent (Inside.trans (.child .here isChild) inside)
    cases taken : isRead tree child with
    | true =>
      rw [named_of_isRead taken]
      exact readDecisions_eq_decisions below
    | false =>
      cases isNamed : isConstruct tree child with
      | true => exact (keeps tree .here child isChild isNamed taken).symm
      | false => rfl
  rw [readDecisions_eq, decisions_eq, readChildren, sumOver_filter, sumOver_filter,
    sumOver_congr each]
termination_by sizeOf tree

/-! ### Routines -/

/-- **The branches of a routine are the decisions of its body.** For every concrete tree they are
what the parts of the body contribute. If the tree has the shape that the grammar gives, these are
the decisions wherever they stand in the body, apart from the places that a construct is not read
from. So there are never too many, and none is lost if none stands in such a place. -/
theorem branches_of_concrete (source : Source) {tree : Concrete}
    (isRoutine : tree.kind = "method" ∨ tree.kind = "singleton_method") :
    branches false (read source tree).node.body =
        max 1 (sumOver (tally source) (statementParts tree)) ∧
      (Shaped tree →
        branches false (read source tree).node.body =
            max 1 (sumOver (decisions source isRead) (statementParts tree)) ∧
          branches false (read source tree).node.body ≤
            max 1 (sumOver (decisions source isConstruct) (statementParts tree)) ∧
          (KeepsDecisions source tree → branches false (read source tree).node.body =
            max 1 (sumOver (decisions source isConstruct) (statementParts tree)))) := by
  have whole := branches_eq_tally source tree isRoutine
  have isBody : entries tree = statementParts tree := by
    unfold entries
    rcases isRoutine with kind | kind <;> rw [kind] <;> rfl
  have isEntry {part : Concrete} (member : part ∈ statementParts tree) : part ∈ entries tree :=
    isBody ▸ member
  refine ⟨whole, fun shaped => ?_⟩
  have counted : sumOver (tally source) (statementParts tree) =
      sumOver (decisions source isRead) (statementParts tree) := by
    apply sumOver_congr
    intro part member
    have inside := (below_entries (isEntry member)).inside
    exact tally_eq_readDecisions (shaped.inside inside)
      (shaped.clauses tree .here part (isEntry member))
  rw [whole, counted]
  refine ⟨rfl, ?_, fun keeps => congrArg (max 1) (sumOver_congr ?_)⟩
  · have fewer : sumOver (decisions source isRead) (statementParts tree) ≤
        sumOver (decisions source isConstruct) (statementParts tree) :=
      sumOver_le fun part _ => readDecisions_le part
    omega
  · intro part member
    have inside := (below_entries (isEntry member)).inside
    exact readDecisions_eq_decisions fun parent deeper => keeps parent (inside.trans deeper)

/-! ### Decisions in literals -/

/-- `a ? b : c`. -/
def ternaryAt (start : Nat) (field : Option String) : Concrete :=
  construct "conditional" start (start + 9) field
    [construct "identifier" start (start + 1) (some "condition") [],
      token "?" (start + 2) (start + 3),
      construct "identifier" (start + 4) (start + 5) (some "consequence") [],
      token ":" (start + 6) (start + 7),
      construct "identifier" (start + 8) (start + 9) (some "alternative") []]

/-- The definition of `m`, with its statements up to an offset. -/
def methodUpTo (stop : Nat) (statements : List Concrete) : Concrete :=
  construct "method" 0 (stop + 4) none
    [token "def" 0 3, construct "identifier" 4 5 (some "name") [],
      construct "body_statement" 8 stop (some "body") statements,
      token "end" (stop + 1) (stop + 4)]

def guardedText : Source := .ofBytes "def m\n  d if a ? b : c\nend\n".toUTF8

def guardedMethod : Concrete :=
  methodUpTo 22
    [construct "if_modifier" 8 22 none
      [construct "identifier" 8 9 (some "body") [], token "if" 10 12,
        ternaryAt 13 (some "condition")]]

theorem branches_of_concrete_guarded :
    guardedMethod.kind = "method" ∧ Shaped guardedMethod ∧
      KeepsDecisions guardedText guardedMethod ∧
        branches false (read guardedText guardedMethod).node.body = 3 := by
  have isMethod : guardedMethod.kind = "method" := rfl
  have shaped : Shaped guardedMethod := by
    constructor <;>
      simp only [guardedMethod, methodUpTo, ternaryAt, construct, token, forall_inside,
        List.forall_mem_cons, List.not_mem_nil, forall_true_iff, and_true, IsEmpty.forall_iff]
    · and_intros <;> trivial
    · and_intros <;> decide
  have keeps : KeepsDecisions guardedText guardedMethod := by
    simp only [KeepsDecisions, guardedMethod, methodUpTo, ternaryAt, construct, token,
      forall_inside, Concrete.children, List.forall_mem_cons, List.not_mem_nil, forall_true_iff,
      and_true, IsEmpty.forall_iff]
    and_intros <;> decide +kernel
  have all := ((branches_of_concrete guardedText (.inl isMethod)).2 shaped).2.2 keeps
  have three : max 1 (sumOver (decisions guardedText isConstruct)
      (statementParts guardedMethod)) = 3 := by decide +kernel
  exact ⟨isMethod, shaped, keeps, all.trans three⟩

/-- A literal that consists of an interpolated choice, which starts at an offset. -/
def interpolated (kind opening : String) (start inner : Nat) : Concrete :=
  construct kind start (inner + 13) none
    [token opening start inner,
      construct "interpolation" inner (inner + 12) none
        [token "#\x7b" inner (inner + 2), ternaryAt (inner + 2) none,
          token "\x7d" (inner + 11) (inner + 12)],
      token "\"" (inner + 12) (inner + 13)]

def interpolatedText : Source :=
  .ofBytes "def m\n  \"#\x7ba ? b : c\x7d\"\n  :\"#\x7ba ? b : c\x7d\"\nend\n".toUTF8

/-- A string and a symbol, each of which interpolates a choice. -/
def interpolatedMethod : Concrete :=
  methodUpTo 40 [interpolated "string" "\"" 8 9, interpolated "delimited_symbol" ":\"" 25 27]

/-- Decisions that stand in interpolated literals are lost. -/
theorem interpolated_decisions_are_lost :
    interpolatedMethod.kind = "method" ∧ Shaped interpolatedMethod ∧
      branches false (read interpolatedText interpolatedMethod).node.body = 1 ∧
        max 1 (sumOver (decisions interpolatedText isConstruct)
          (statementParts interpolatedMethod)) = 4 := by
  refine ⟨rfl, ?_, by decide +kernel, by decide +kernel⟩
  constructor <;>
    simp only [interpolatedMethod, interpolated, methodUpTo, ternaryAt, construct, token,
      forall_inside, List.forall_mem_cons, List.not_mem_nil, forall_true_iff, and_true,
      IsEmpty.forall_iff]
  · and_intros <;> trivial
  · and_intros <;> decide

end SpecLint.Routine
