import SpecLint.Routine.Basic
import SpecLint.Proofs.Routine.Amounts
import SpecLint.Proofs.Code.Spans
import Mathlib.Algebra.Order.BigOperators.Group.List
import Mathlib.Algebra.Order.Group.Nat

/-!
# Where routines start

Every routine is read from a definition in the source, and no definition is read twice. So no two
routines start at the same line and column.

## Main result

`nodup_starts_collect`: the routines of a file have locations, and all of them start elsewhere.

## Proof strategy

The routines that start at a place are counted on the code tree, the definitions at that place on
the concrete tree. What a construct is read from is chosen among its children and their children,
and nothing is chosen twice, so a count on the chosen nodes is at most the count on the children.
-/
namespace SpecLint.Routine

open SpecLint.Code

/-! ### Choices among the children -/

section Choices

variable {amount : Concrete → Nat} (tree : Concrete)

theorem sumOver_le_of_sublist {some all : List Concrete} (sub : some.Sublist all) :
    sumOver amount some ≤ sumOver amount all :=
  (sub.map amount).sum_le_sum fun _ _ => Nat.zero_le _

theorem sumOver_filter_le (test : Concrete → Bool) (all : List Concrete) :
    sumOver amount (all.filter test) ≤ sumOver amount all :=
  sumOver_le_of_sublist List.filter_sublist

theorem le_sumOver_of_mem {child : Concrete} {all : List Concrete} (member : child ∈ all) :
    amount child ≤ sumOver amount all :=
  List.le_sum_of_mem (List.mem_map_of_mem member)

theorem sumOver_flatMap (choose : Concrete → List Concrete) (trees : List Concrete) :
    sumOver amount (trees.flatMap choose) =
      sumOver (fun child => sumOver amount (choose child)) trees := by
  rw [sumOver, List.map_flatMap, sum_flatMap]
  rfl

/-- Choices that have nothing in common make one choice. -/
theorem sumOver_filter_add_le (left right : Concrete → Bool) {all : List Concrete}
    (apart : ∀ child ∈ all, left child = true → right child = false) :
    sumOver amount (all.filter left) + sumOver amount (all.filter right) ≤
      sumOver amount (all.filter fun child => left child || right child) := by
  simp only [sumOver_filter]
  unfold sumOver
  rw [← List.sum_map_add]
  refine sumOver_le fun child member => ?_
  cases taken : left child with
  | true => simp [apart child member taken]
  | false => simp

/-- Whether a child stands under one of some fields. -/
def isUnder (fields : List String) (child : Concrete) : Bool :=
  child.field.elim false fields.contains

theorem sumOver_child?_le (field : String) :
    (tree.child? field).elim 0 amount ≤
      sumOver amount (tree.children.filter (·.field == some field)) := by
  cases found : tree.child? field with
  | none => exact Nat.zero_le _
  | some child =>
    exact le_sumOver_of_mem (List.mem_filter.mpr
      ⟨Concrete.mem_children_of_child? found, by simp [Concrete.field_of_child? found]⟩)

theorem sumOver_under_le {fields : List String} (distinct : fields.Nodup) :
    sumOver amount (tree.under fields) ≤
      sumOver amount (tree.children.filter (isUnder fields)) := by
  induction fields with
  | nil => exact Nat.zero_le _
  | cons field fields ih =>
    obtain ⟨fresh, distinct⟩ := List.nodup_cons.mp distinct
    have both : sumOver amount (tree.children.filter (·.field == some field)) +
        sumOver amount (tree.children.filter (isUnder fields)) ≤
          sumOver amount (tree.children.filter (isUnder (field :: fields))) := by
      refine Nat.le_trans (sumOver_filter_add_le _ _ fun child _ here => ?_) (Nat.le_of_eq ?_)
      · rw [isUnder, beq_iff_eq.mp here]
        simpa using fresh
      · congr 2
        funext child
        cases named : child.field with
        | none => simp [isUnder, named]
        | some other => simp [isUnder, named, beq_eq_decide]
    rw [sumOver_under_cons]
    exact Nat.le_trans (Nat.add_le_add (sumOver_child?_le tree field) (ih distinct)) both

theorem sumOver_under_le_children {fields : List String} (distinct : fields.Nodup) :
    sumOver amount (tree.under fields) ≤ sumOver amount tree.children :=
  Nat.le_trans (sumOver_under_le tree distinct) (sumOver_filter_le _ _)

theorem sumOver_shown_le : sumOver amount tree.shown ≤ sumOver amount tree.children :=
  sumOver_filter_le _ _

theorem shownBeside_sublist (headers : List String) :
    (tree.shownBeside headers).Sublist
      (tree.children.filter fun child => !isUnder headers child) :=
  List.filter_sublist.filter _

theorem sumOver_bodyParts_le {headers : List String} (noBody : headers.contains "body" = false) :
    sumOver amount (tree.bodyParts headers) ≤
      sumOver amount (tree.children.filter fun child => !isUnder headers child) := by
  unfold Concrete.bodyParts
  split
  next body found =>
    rw [sumOver_singleton]
    refine le_sumOver_of_mem (List.mem_filter.mpr ⟨Concrete.mem_children_of_child? found, ?_⟩)
    rw [isUnder, Concrete.field_of_child? found, Option.elim_some, noBody]
    rfl
  next => exact sumOver_le_of_sublist (shownBeside_sublist tree headers)

/-- What is chosen under some fields and what is chosen beside them have nothing in common. -/
theorem add_le_children {fields : List String} {front back : Nat}
    (under : front ≤ sumOver amount (tree.children.filter (isUnder fields)))
    (beside : back ≤ sumOver amount (tree.children.filter fun child => !isUnder fields child)) :
    front + back ≤ sumOver amount tree.children := by
  refine Nat.le_trans (Nat.add_le_add under beside) (Nat.le_trans (sumOver_filter_add_le _ _ ?_)
    (sumOver_filter_le _ _))
  intro child _ here
  simp [here]

end Choices

/-! ### Nothing is chosen twice -/

/-- No part of a node is taken for two: the block of a call is neither its receiver nor the list of
its arguments, and the value of a case is none of its arms. -/
structure Separated (tree : Concrete) : Prop where
  call : tree.kind = "call" → ∀ block ∈ attachedBlock? tree,
    isUnder ["receiver", "arguments"] block = false
  caseOf : tree.kind = "case" ∨ tree.kind = "case_match" → ∀ child ∈ tree.children,
    isUnder ["value"] child = true → isCaseArm child = false ∧ isElse child = false

instance (tree : Concrete) : Decidable (Separated tree) :=
  decidable_of_iff ((tree.kind = "call" → ∀ block ∈ attachedBlock? tree,
      isUnder ["receiver", "arguments"] block = false) ∧
      (tree.kind = "case" ∨ tree.kind = "case_match" → ∀ child ∈ tree.children,
        isUnder ["value"] child = true → isCaseArm child = false ∧ isElse child = false))
    ⟨fun ⟨call, caseOf⟩ => ⟨call, caseOf⟩, fun separated => ⟨separated.call, separated.caseOf⟩⟩

/-- The parts of a definition's header that are read. -/
def headerParts (tree : Concrete) : List Concrete :=
  match tree.kind with
  | "class" => (tree.child? "superclass").elim [] fun field => field.namedChildren.head?.toList
  | "singleton_class" => tree.under ["value"]
  | "singleton_method" => tree.under ["object"]
  | _ => []

theorem below_headerParts {tree inner : Concrete} (member : inner ∈ headerParts tree) :
    Below tree inner := by
  unfold headerParts at member
  split at member
  next =>
    cases found : tree.child? "superclass" with
    | none => simp [found] at member
    | some field =>
      rw [found, Option.elim_some, Option.mem_toList] at member
      exact (below_namedChildren (List.mem_of_head? member)).deeper
        (Concrete.mem_children_of_child? found)
  next => exact below_under member
  next => exact below_under member
  next => cases member

/-- A definition is read from nodes below it. -/
theorem below_definitionParts {tree inner : Concrete}
    (member : inner ∈ headerParts tree ++ statementParts tree) : Below tree inner := by
  rcases List.mem_append.mp member with header | statement
  · exact below_headerParts header
  · exact below_child (Concrete.mem_children_of_bodyParts statement)

section Covering

variable {amount : Concrete → Nat}
  (covers : ∀ tree : Concrete, sumOver amount tree.children ≤ amount tree)
include covers

theorem sumOver_alternativeParts_le (alternative : Concrete) :
    sumOver amount (alternativeParts alternative) ≤ amount alternative := by
  -- along the alternatives, each of which is a child of the one before
  induction alternative using alternativeArms.induct with
  | case1 alternative isElsif further next ih =>
    refine Nat.le_trans ?_ (Nat.le_trans (sumOver_under_le_children alternative
      (show ["condition", "consequence", "alternative"].Nodup by decide)) (covers alternative))
    simp only [alternativeParts_elsif alternative isElsif, chainParts, next, Option.elim_some,
      sumOver_append, sumOver_under_cons, sumOver_under_nil]
    omega
  | case2 alternative isElsif next =>
    refine Nat.le_trans ?_ (Nat.le_trans (sumOver_under_le_children alternative
      (show ["condition", "consequence"].Nodup by decide)) (covers alternative))
    simp only [alternativeParts_elsif alternative isElsif, chainParts, next, Option.elim_none,
      List.append_nil, Nat.le_refl]
  | case3 alternative isElse =>
    rw [alternativeParts, if_neg isElse, sumOver_singleton]

variable (tree : Concrete)

theorem sumOver_chainParts_le :
    sumOver amount (chainParts tree) ≤ sumOver amount tree.children := by
  refine Nat.le_trans ?_ (sumOver_under_le_children tree
    (show ["condition", "consequence", "alternative"].Nodup by decide))
  simp only [chainParts, sumOver_append, sumOver_under_cons, sumOver_under_nil]
  cases tree.child? "alternative" with
  | none => simp
  | some alternative =>
    have further := sumOver_alternativeParts_le covers alternative
    simp only [Option.elim_some]
    omega

theorem sumOver_callParts_le
    (separated : ∀ block ∈ attachedBlock? tree, isUnder ["receiver", "arguments"] block = false) :
    sumOver amount (callParts tree) ≤ sumOver amount tree.children := by
  have arguments : sumOver amount ((tree.child? "arguments").elim [] (·.shown)) ≤
      (tree.child? "arguments").elim 0 amount := by
    cases tree.child? "arguments" with
    | none => exact Nat.le_refl 0
    | some list => exact Nat.le_trans (sumOver_shown_le list) (covers list)
  have front : sumOver amount (tree.under ["receiver"] ++
      (tree.child? "arguments").elim [] (·.shown)) ≤
        sumOver amount (tree.children.filter (isUnder ["receiver", "arguments"])) := by
    refine Nat.le_trans ?_ (sumOver_under_le tree (by decide))
    simp only [sumOver_append, sumOver_under_cons, sumOver_under_nil]
    omega
  have block : sumOver amount ((attachedBlock? tree).elim [] (·.bodyParts ["parameters"])) ≤
      sumOver amount (tree.children.filter fun child =>
        !isUnder ["receiver", "arguments"] child) := by
    cases attached : attachedBlock? tree with
    | none => exact Nat.zero_le _
    | some block =>
      have inBlock : sumOver amount (block.bodyParts ["parameters"]) ≤ amount block :=
        Nat.le_trans (sumOver_bodyParts_le block rfl)
          (Nat.le_trans (sumOver_filter_le _ _) (covers block))
      refine Nat.le_trans inBlock (le_sumOver_of_mem (List.mem_filter.mpr
        ⟨mem_children_of_attachedBlock? attached, ?_⟩))
      rw [separated block attached]
      rfl
  rw [callParts, sumOver_append]
  exact add_le_children tree front block

theorem sumOver_caseArmParts_le : sumOver amount (caseArmParts tree) ≤ amount tree := by
  refine Nat.le_trans ?_ (covers tree)
  refine Nat.le_trans ?_ (sumOver_filter_le
    (fun child => child.field == some "pattern" || isUnder ["body"] child) tree.children)
  rw [caseArmParts, sumOver_append]
  refine Nat.le_trans (Nat.add_le_add_left (sumOver_under_le tree (by decide)) _)
    (sumOver_filter_add_le _ _ fun child _ isPattern => ?_)
  rw [isUnder, beq_iff_eq.mp isPattern]
  decide

theorem sumOver_caseParts_le
    (separated : ∀ child ∈ tree.children, isUnder ["value"] child = true →
      isCaseArm child = false ∧ isElse child = false) :
    sumOver amount (caseParts tree) ≤ sumOver amount tree.children := by
  have value : sumOver amount (tree.under ["value"]) ≤
      sumOver amount (tree.children.filter (isUnder ["value"])) :=
    sumOver_under_le tree (by decide)
  have arms : sumOver amount ((tree.namedChildren.filter isCaseArm).flatMap caseArmParts) ≤
      sumOver amount (tree.children.filter isCaseArm) := by
    rw [sumOver_flatMap]
    exact Nat.le_trans (sumOver_le fun arm _ => sumOver_caseArmParts_le covers arm)
      (sumOver_le_of_sublist (List.filter_sublist.filter _))
  have orelse : sumOver amount (tree.namedChildren.filter isElse).getLast?.toList ≤
      sumOver amount (tree.children.filter isElse) := by
    cases last : (tree.namedChildren.filter isElse).getLast? with
    | none => exact Nat.zero_le _
    | some part =>
      rw [Option.toList_some, sumOver_singleton]
      exact Nat.le_trans (le_sumOver_of_mem (List.mem_of_getLast? last))
        (sumOver_le_of_sublist (List.filter_sublist.filter isElse))
  have front : sumOver amount (tree.children.filter (isUnder ["value"])) +
      sumOver amount (tree.children.filter isCaseArm) ≤ sumOver amount
        (tree.children.filter fun child => isUnder ["value"] child || isCaseArm child) :=
    sumOver_filter_add_le _ _ fun child member isValue => (separated child member isValue).1
  have whole : sumOver amount
        (tree.children.filter fun child => isUnder ["value"] child || isCaseArm child) +
      sumOver amount (tree.children.filter isElse) ≤ sumOver amount tree.children := by
    refine Nat.le_trans (sumOver_filter_add_le _ _ fun child member taken => ?_)
      (sumOver_filter_le _ _)
    rcases Bool.or_eq_true_iff.mp taken with isValue | isArm
    · exact (separated child member isValue).2
    · -- an arm is of another kind
      simp only [isCaseArm, decide_eq_true_eq] at isArm
      rcases isArm with kind | kind <;> simp [isElse, kind]
  rw [caseParts, sumOver_append, sumOver_append]
  omega

theorem sumOver_returnParts_le :
    sumOver amount (returnParts tree) ≤ sumOver amount tree.children := by
  refine Nat.le_trans ?_ (sumOver_filter_le (·.named) tree.children)
  rw [returnParts, Concrete.namedChildren, sumOver_flatMap]
  refine sumOver_le fun child _ => ?_
  split
  · exact Nat.le_trans (sumOver_filter_le _ _) (covers child)
  · split
    · exact Nat.zero_le _
    · rw [sumOver_singleton]

/-- A construct is read from parts that amount to no more than its children. -/
theorem sumOver_entries_le (separated : Separated tree) (entered : isDefinition tree = false) :
    sumOver amount (entries tree) ≤ sumOver amount tree.children := by
  have body {headers : List String} (noBody : headers.contains "body" = false) :
      sumOver amount (tree.bodyParts headers) ≤ sumOver amount tree.children :=
    Nat.le_trans (sumOver_bodyParts_le tree noBody) (sumOver_filter_le _ _)
  have closed {kind : String} (isKind : tree.kind = kind)
      (isNested : definitionKinds.contains kind = true) : False := by
    rw [isDefinition, isKind, isNested] at entered
    cases entered
  unfold entries
  split
  -- the cases stand in the order of the kinds
  next kind => exact (closed kind rfl).elim
  next kind => exact (closed kind rfl).elim
  next kind => exact (closed kind rfl).elim
  next kind => exact (closed kind rfl).elim
  next kind => exact (closed kind rfl).elim
  next kind => exact sumOver_callParts_le covers tree (separated.call kind)
  next => exact body rfl
  next => exact body rfl
  next => exact sumOver_chainParts_le covers tree
  next => exact sumOver_chainParts_le covers tree
  next => exact sumOver_under_le_children tree (by decide)
  next => exact sumOver_under_le_children tree (by decide)
  next => exact sumOver_under_le_children tree (by decide)
  next kind => exact sumOver_caseParts_le covers tree (separated.caseOf (.inl kind))
  next kind => exact sumOver_caseParts_le covers tree (separated.caseOf (.inr kind))
  next => exact sumOver_returnParts_le covers tree
  next => exact sumOver_under_le_children tree (by decide)
  next => exact sumOver_under_le_children tree (by decide)
  next => exact sumOver_under_le_children tree (by decide)
  next =>
    rw [sumOver_append]
    exact add_le_children tree (sumOver_under_le tree (by decide))
      (sumOver_le_of_sublist (shownBeside_sublist tree _))
  next =>
    split
    · exact Nat.zero_le _
    · exact sumOver_shown_le tree

theorem sumOver_headerParts_le :
    sumOver amount (headerParts tree) ≤
      sumOver amount (tree.children.filter (isUnder (headerFields tree.kind))) := by
  have distinct : (headerFields tree.kind).Nodup := by
    unfold headerFields
    split <;> decide
  refine Nat.le_trans ?_ (sumOver_under_le tree distinct)
  unfold headerParts headerFields
  split
  next kind =>
    simp only [kind, sumOver_under_cons, sumOver_under_nil]
    cases tree.child? "superclass" with
    | none => exact Nat.zero_le _
    | some field =>
      have first : sumOver amount field.namedChildren.head?.toList ≤ amount field := by
        refine Nat.le_trans ?_ (Nat.le_trans (sumOver_filter_le (·.named) _) (covers field))
        rw [← Concrete.namedChildren]
        cases field.namedChildren <;> simp [sumOver]
      simp only [Option.elim_some]
      omega
  next kind =>
    rw [kind]
    exact Nat.le_refl _
  next kind =>
    simp only [kind, sumOver_under_cons, sumOver_under_nil]
    omega
  next => exact Nat.zero_le _

/-- A definition is read from parts that amount to no more than its children. -/
theorem sumOver_definitionParts_le :
    sumOver amount (headerParts tree ++ statementParts tree) ≤ sumOver amount tree.children := by
  rw [sumOver_append]
  refine add_le_children tree (sumOver_headerParts_le covers tree) (sumOver_bodyParts_le tree ?_)
  unfold headerFields
  split <;> rfl

end Covering

/-! ### Routines at a place -/

/-- Whether a node is a routine that starts at a place. -/
def startsAt (place : Option (Nat × Nat)) (node : Node) : Bool :=
  node.isRoutine && node.loc.map Location.start == place

/-- How many routines of a code tree start at a place. -/
def routinesAt (place : Option (Nat × Nat)) (node : Node) : Nat :=
  node.walk.countP (startsAt place)

/-- How many definitions of a concrete tree start at a place. -/
def definitionsAt (source : Source) (place : Option (Nat × Nat)) (tree : Concrete) : Nat :=
  tree.definitions.countP fun inner => some (inner.place source) == place

variable (source : Source) (place : Option (Nat × Nat))

theorem routinesAt_eq (node : Node) :
    routinesAt place node =
      (if startsAt place node then 1 else 0) + (node.children.map (routinesAt place)).sum := by
  rw [routinesAt, Node.walk_eq, List.countP_cons, List.countP_flatMap, Nat.add_comm]
  rfl

theorem definitionsAt_eq (tree : Concrete) :
    definitionsAt source place tree =
      (if tree.definesRoutine && some (tree.place source) == place then 1 else 0) +
        sumOver (definitionsAt source place) tree.children := by
  rw [definitionsAt, Concrete.definitions_eq, List.countP_append, List.countP_flatMap]
  congr 1
  cases tree.definesRoutine <;> simp

theorem covers_definitionsAt (tree : Concrete) :
    sumOver (definitionsAt source place) tree.children ≤ definitionsAt source place tree := by
  rw [definitionsAt_eq source place tree]
  exact Nat.le_add_left _ _

theorem additive_routinesAt : Additive (routinesAt place) fun _ => 0 where
  entered := by
    intro node entered
    have noRoutine : node.isRoutine = false := by
      cases node <;> first | rfl | cases entered
    rw [routinesAt_eq, startsAt, noRoutine]
    rfl
  silent := fun _ _ => rfl

section Definitions

variable (tree : Concrete)

theorem routinesAt_superclassOf :
    ((superclassOf (readAll source tree.children)).toList.map (routinesAt place)).sum =
      sumOver (held (routinesAt place) source)
        ((tree.child? "superclass").elim [] fun field => field.namedChildren.head?.toList) := by
  rw [superclassOf, part?_child?]
  cases tree.child? "superclass" with
  | none => rfl
  | some field =>
    rw [Option.map_some, Option.bind_some, parts_read, namedParts_readAll, Option.elim_some]
    cases field.namedChildren with
    | nil => rfl
    | cons first rest => simp [held]

/-- The object that a definition names; `self` if it names none. -/
theorem routinesAt_object (field : String) :
    routinesAt place ((nodeOf (part? (readAll source tree.children) field)).getD (.selfRef none)) =
      sumOver (held (routinesAt place) source) (tree.under [field]) := by
  rw [part?_child?, sumOver_under_cons]
  cases tree.child? field with
  | none => exact (additive_routinesAt place).leaf rfl rfl rfl
  | some child => simp [nodeOf, held]

/-- A definition is one routine or none, and has those of its parts. -/
theorem held_definition (isDefined : isDefinition tree = true) :
    held (routinesAt place) source tree =
      (if tree.definesRoutine && some (tree.place source) == place then 1 else 0) +
        sumOver (held (routinesAt place) source) (headerParts tree ++ statementParts tree) := by
  have body (headers : List String) := (additive_routinesAt place).sum_bodyOf source tree headers
  simp only [isDefinition, definitionKinds, List.contains_iff_mem, List.mem_cons,
    List.not_mem_nil, or_false] at isDefined
  have located : (locationOf source tree).map Location.start = some (tree.place source) := rfl
  rw [held, node_read, build, statementParts]
  unfold headerParts Concrete.definesRoutine
  rcases isDefined with kind | kind | kind | kind | kind <;> rw [kind] <;>
    refine (routinesAt_eq place _).trans ?_
  case inl =>
    simp [Node.children, startsAt, Node.isRoutine, body, headerFields, routinesAt_superclassOf]
  case inr.inl =>
    simp [Node.children, startsAt, Node.isRoutine, body, headerFields]
  case inr.inr.inl =>
    simp [Node.children, startsAt, Node.isRoutine, body, headerFields, routinesAt_object]
  case inr.inr.inr.inl =>
    simp [Node.children, startsAt, Node.isRoutine, Node.loc, body, headerFields, located]
  case inr.inr.inr.inr =>
    simp [Node.children, startsAt, Node.isRoutine, Node.loc, body, headerFields, located,
      routinesAt_object]

end Definitions

/-- A tree has no more routines at a place than definitions. -/
theorem held_routinesAt_le (tree : Concrete)
    (separated : ∀ inner, Inside tree inner → Separated inner) :
    held (routinesAt place) source tree ≤ definitionsAt source place tree := by
  have deeper {parts : List Concrete} (below : ∀ part ∈ parts, Below tree part) :
      sumOver (held (routinesAt place) source) parts ≤
        sumOver (definitionsAt source place) parts := by
    refine sumOver_le fun part member => ?_
    have smaller := (below part member).sizeOf_lt
    exact held_routinesAt_le part fun inner inside =>
      separated inner (Inside.trans (below part member).inside inside)
  rw [definitionsAt_eq]
  cases defined : isDefinition tree with
  | true =>
    rw [held_definition source place tree defined]
    exact Nat.add_le_add_left (Nat.le_trans (deeper fun _ member => below_definitionParts member)
      (sumOver_definitionParts_le (covers_definitionsAt source place) tree)) _
  | false =>
    rw [(additive_routinesAt place).held_step source tree defined]
    have chosen := Nat.le_trans (deeper fun _ member => below_entries member)
      (sumOver_entries_le (covers_definitionsAt source place) tree (separated tree .here) defined)
    simp only [ownHeld, ite_self, Nat.zero_add]
    omega
termination_by sizeOf tree

/-! ### Routines of a file -/

/-- How a grammar's tree is laid out: its nodes lie in the source as they should, and no part of a
node is taken for two. -/
def Orderly (tree : Concrete) : Prop := ∀ inner, Inside tree inner → inner.Placed ∧ Separated inner

instance (tree : Concrete) : Decidable (Orderly tree) :=
  inferInstanceAs (Decidable (∀ inner, Inside tree inner → inner.Placed ∧ Separated inner))

theorem routinesAt_programOf_le (tree : Concrete)
    (separated : ∀ inner, Inside tree inner → Separated inner) :
    routinesAt place (programOf source tree) ≤ definitionsAt source place tree := by
  have root := held_routinesAt_le source place tree separated
  rw [held] at root
  unfold programOf
  split
  next program => rwa [program] at root
  next wrapped =>
    rw [(additive_routinesAt place).single rfl rfl rfl]
    exact root

/-- Where the routines of a file start. -/
def starts (routines : List Routine) : List (Option (Nat × Nat)) :=
  routines.map fun routine => routine.loc.map Location.start

theorem count_starts (root : Node) (path : Option Path) :
    (starts (Routine.collect (Site.root root) path)).count place = routinesAt place root := by
  rw [starts, Routine.collect, List.map_map, List.count, List.countP_map, List.countP_filter,
    routinesAt, show root = (Site.root root).node from rfl, ← Site.map_node_walk, List.countP_map]
  congr 1
  funext site
  rw [Bool.and_comm]
  rfl

variable {tree : Concrete} (orderly : Orderly tree) (path : Option Path)
include orderly

/-- All routines of a file start at places of their own. -/
theorem nodup_starts_collect :
    (starts (Routine.collect (Site.root (programOf source tree)) path)).Nodup ∧
      none ∉ starts (Routine.collect (Site.root (programOf source tree)) path) := by
  have bound (place : Option (Nat × Nat)) :
      (starts (Routine.collect (Site.root (programOf source tree)) path)).count place ≤
        (tree.definitions.map fun inner => some (inner.place source)).count place := by
    rw [count_starts, List.count, List.countP_map]
    exact routinesAt_programOf_le source place tree fun inner inside => (orderly inner inside).2
  have places : (tree.definitions.map fun inner => some (inner.place source)).Nodup := by
    have distinct := Concrete.nodup_places_definitions source
      fun inner inside => (orderly inner inside).1
    rw [show (fun inner : Concrete => some (inner.place source)) = some ∘ Concrete.place source
      from rfl, ← List.map_map]
    exact distinct.map fun _ _ => Option.some.inj
  constructor
  · rw [List.nodup_iff_count_le_one] at places ⊢
    exact fun place => Nat.le_trans (bound place) (places place)
  · rw [← List.count_eq_zero]
    have nowhere : (tree.definitions.map fun inner => some (inner.place source)).count none = 0 :=
      List.count_eq_zero.mpr (by simp)
    exact Nat.le_zero.mp (nowhere ▸ bound none)

end SpecLint.Routine
