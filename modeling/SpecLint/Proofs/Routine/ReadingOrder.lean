import SpecLint.Proofs.Routine.Amounts
import SpecLint.Proofs.Code.Spans

/-!
# The order in which a tree is read

The children of a concrete node stand in the source one behind the other. A construct that lists its
parts as they stand is read in this order. A construct that asks for its parts by their fields takes
them in an order of its own, which may be another one: a condition behind a statement is taken
before the statement. So nodes are visited in the order of the source, unless they are read off two
parts that their common construct takes out of turn.

## Main result

`spread_read`: what is read off a concrete node lies in its span, and is in turn.

## Proof strategy

A node starts where the concrete node starts that it is read off, and so no later than all that lies
in the span of that. What the children of a node are read off is a list of parts; two parts either
follow each other in the source, or the construct takes them out of turn. So there is one lemma for
a list of parts, one for a node put around what is read off them, and one for each way of building a
construct.
-/
namespace SpecLint.Routine

open SpecLint.Code
open SpecLint.Code.Concrete (WellLaid)

/-! ### Parts that are asked for -/

/-- The parts that a construct asks for, in the order in which it takes them. All other constructs
take their parts as they stand. -/
def turns (tree : Concrete) : List Concrete :=
  match tree.kind with
  | "class" => tree.under ["superclass"] ++ tree.bodyParts ["name", "superclass"]
  | "singleton_class" => tree.under ["value"] ++ tree.bodyParts ["value"]
  | "singleton_method" => tree.under ["object"] ++ tree.bodyParts ["object", "name", "parameters"]
  | "call" => tree.under ["receiver", "arguments"] ++ (attachedBlock? tree).toList
  | "if" | "unless" | "elsif" | "conditional" =>
    tree.under ["condition", "consequence", "alternative"]
  | "if_modifier" | "unless_modifier" => tree.under ["condition", "body"]
  | "case" | "case_match" =>
    tree.under ["value"] ++ tree.namedChildren.filter isCaseArm ++
      (tree.namedChildren.filter isElse).getLast?.toList
  | "when" | "in_clause" => caseArmParts tree
  | "operator_assignment" | "assignment" => tree.under ["left", "right"]
  | "element_reference" => tree.under ["object"] ++ tree.shownBeside ["object"]
  | _ => []

/-- A node is read off a concrete node: it has its location, and a routine is read off a definition.
-/
structure StandsFor (source : Source) (origin : Concrete) (node : Node) : Prop where
  loc : node.loc = locationOf source origin
  defines : node.isRoutine = true → origin.definesRoutine = true

/-- A node is read off something inside a concrete node. -/
def ReadInside (source : Source) (tree : Concrete) (node : Node) : Prop :=
  ∃ origin, Inside tree origin ∧ StandsFor source origin node

/-- One node starts no later than another one. A node without location starts nowhere. -/
def StartsBy (earlier later : Node) : Prop :=
  ∀ first ∈ earlier.loc, ∀ second ∈ later.loc, first.StartsBy second

instance (earlier later : Node) : Decidable (StartsBy earlier later) :=
  inferInstanceAs (Decidable (∀ first ∈ earlier.loc, ∀ second ∈ later.loc, first.StartsBy second))

/-- Two nodes are read off two parts of a construct, which takes first the part that does not end
before the other one starts. -/
def OutOfTurn (source : Source) (top : Concrete) (earlier later : Node) : Prop :=
  ∃ outer front back, Inside top outer ∧ [front, back].Sublist (turns outer) ∧
    ¬front.stop ≤ back.start ∧ ReadInside source front earlier ∧ ReadInside source back later

/-- Two nodes, of which the earlier one starts no later unless they are out of turn. -/
def InTurn (source : Source) (top : Concrete) (earlier later : Node) : Prop :=
  StartsBy earlier later ∨ OutOfTurn source top earlier later

/-- What is read off a concrete node, together with all that is below: it has locations inside, and
is in turn. -/
structure Spread (source : Source) (top tree : Concrete) (nodes : List Node) : Prop where
  origin : ∀ node ∈ nodes.flatMap Node.walk, node.loc ≠ none → ReadInside source tree node
  inTurn : (nodes.flatMap Node.walk).Pairwise (InTurn source top)

/-- Nodes that are read off some parts, part after part. Between them there may be nodes that stand
for what is absent. -/
inductive Taken (source : Source) (top : Concrete) : List Concrete → List Node → Prop
  | nil : Taken source top [] []
  | part {part : Concrete} {parts : List Concrete} {nodes rest : List Node}
      (spread : Spread source top part nodes) (others : Taken source top parts rest) :
      Taken source top (part :: parts) (nodes ++ rest)
  | absent {node : Node} {parts : List Concrete} {rest : List Node} (unplaced : node.loc = none)
      (childless : node.children = []) (others : Taken source top parts rest) :
      Taken source top parts (node :: rest)

variable {source : Source} {top tree part : Concrete} {node : Node} {nodes rest : List Node}
  {parts others : List Concrete} {left right : String}

theorem StandsFor.plain (loc : node.loc = locationOf source tree) (plain : node.isRoutine = false) :
    StandsFor source tree node :=
  ⟨loc, fun routine => absurd (plain.symm.trans routine) Bool.false_ne_true⟩

theorem ReadInside.outwards (read : ReadInside source part node) (inside : Inside tree part) :
    ReadInside source tree node := by
  obtain ⟨origin, deeper, stands⟩ := read
  exact ⟨origin, inside.trans deeper, stands⟩

theorem startsBy_of_loc_eq_none {earlier later : Node}
    (unplaced : earlier.loc = none ∨ later.loc = none) : StartsBy earlier later := by
  intro first isFirst second isSecond
  rcases unplaced with none | none
  · cases none.symm.trans isFirst
  · cases none.symm.trans isSecond

theorem startsBy_of_origins {earlier later : Node} {left right : Concrete}
    (forEarlier : StandsFor source left earlier) (forLater : StandsFor source right later)
    (before : left.start ≤ right.start) : StartsBy earlier later := by
  intro first isFirst second isSecond
  obtain rfl := Option.some.inj (forEarlier.loc.symm.trans isFirst)
  obtain rfl := Option.some.inj (forLater.loc.symm.trans isSecond)
  exact source.startsBy_locate before _ _

/-! ### Lists of parts -/

namespace Taken

theorem single (spread : Spread source top part nodes) : Taken source top [part] nodes := by
  simpa using Taken.part spread .nil

theorem append (first : Taken source top parts nodes) (second : Taken source top others rest) :
    Taken source top (parts ++ others) (nodes ++ rest) := by
  induction first with
  | nil => exact second
  | part spread _ ih =>
    rw [List.append_assoc]
    exact .part spread ih
  | absent unplaced childless _ ih => exact .absent unplaced childless ih

theorem flatMap {take : Concrete → List Node}
    (each : ∀ part ∈ parts, Spread source top part (take part)) :
    Taken source top parts (parts.flatMap take) := by
  induction parts with
  | nil => exact .nil
  | cons part parts ih =>
    obtain ⟨here, later⟩ := List.forall_mem_cons.mp each
    exact .part here (ih later)

theorem map {take : Concrete → Node}
    (each : ∀ part ∈ parts, Spread source top part [take part]) :
    Taken source top parts (parts.map take) := by
  rw [List.map_eq_flatMap]
  exact flatMap each

/-- What is taken is read off one of the parts. -/
theorem origin (taken : Taken source top parts nodes) (member : node ∈ nodes.flatMap Node.walk)
    (placed : node.loc ≠ none) : ∃ part ∈ parts, ReadInside source part node := by
  induction taken with
  | nil => cases member
  | part spread _ ih =>
    rw [List.flatMap_append, List.mem_append] at member
    rcases member with here | later
    · exact ⟨_, List.mem_cons_self, spread.origin node here placed⟩
    · obtain ⟨part, isPart, read⟩ := ih later
      exact ⟨part, List.mem_cons_of_mem _ isPart, read⟩
  | @absent blank _ _ unplaced childless _ ih =>
    rw [List.flatMap_cons, Node.walk_eq, childless, List.mem_append, List.flatMap_nil,
      List.mem_singleton] at member
    rcases member with rfl | later
    · exact absurd unplaced placed
    · exact ih later

end Taken

/-- Of two parts of a construct, either one ends before the other one starts, or they are taken out
of turn. -/
theorem inTurn_of_parts (laid : WellLaid top) (inside : Inside top tree) {front back : Concrete}
    (isFront : front ∈ tree.children) (isBack : back ∈ tree.children)
    (turn : front.stop ≤ back.start ∨ [front, back].Sublist (turns tree)) {earlier later : Node}
    (isEarlier : earlier.loc ≠ none → ReadInside source front earlier)
    (isLater : later.loc ≠ none → ReadInside source back later) :
    InTurn source top earlier later := by
  by_cases noEarlier : earlier.loc = none
  · exact .inl (startsBy_of_loc_eq_none (.inl noEarlier))
  by_cases noLater : later.loc = none
  · exact .inl (startsBy_of_loc_eq_none (.inr noLater))
  have inFront := isEarlier noEarlier
  have inBack := isLater noLater
  by_cases before : front.stop ≤ back.start
  · -- the earlier node starts in front, and all of that ends before the other part starts
    obtain ⟨left, isLeft, forEarlier⟩ := inFront
    obtain ⟨right, isRight, forLater⟩ := inBack
    have leftSpan := (laid.inside (inside.child isFront)).within isLeft
    have rightSpan := (laid.inside (inside.child isBack)).within isRight
    have forward := (laid left ((inside.child isFront).trans isLeft)).forward
    refine .inl (startsBy_of_origins forEarlier forLater ?_)
    omega
  · exact .inr ⟨tree, front, back, inside, turn.resolve_left before, before, inFront, inBack⟩

/-- What is taken from children of a node is spread over the node. -/
theorem Taken.spread (laid : WellLaid top) (inside : Inside top tree)
    (taken : Taken source top parts nodes) (among : ∀ part ∈ parts, part ∈ tree.children)
    (turn : parts.Pairwise fun front back =>
      front.stop ≤ back.start ∨ [front, back].Sublist (turns tree)) :
    Spread source top tree nodes := by
  refine ⟨fun node member placed => ?_, ?_⟩
  · obtain ⟨part, isPart, read⟩ := taken.origin member placed
    exact read.outwards (.child .here (among part isPart))
  · -- part by part, each against all that is taken later
    induction taken with
    | nil => exact List.Pairwise.nil
    | @part part parts nodes rest spread others ih =>
      obtain ⟨isPart, among⟩ := List.forall_mem_cons.mp among
      obtain ⟨first, turn⟩ := List.pairwise_cons.mp turn
      rw [List.flatMap_append, List.pairwise_append]
      refine ⟨spread.inTurn, ih among turn, fun earlier isEarlier later isLater => ?_⟩
      by_cases noLater : later.loc = none
      · exact .inl (startsBy_of_loc_eq_none (.inr noLater))
      obtain ⟨back, isBack, read⟩ := others.origin isLater noLater
      exact inTurn_of_parts laid inside isPart (among back isBack) (first back isBack)
        (spread.origin earlier isEarlier) fun _ => read
    | @absent node parts rest unplaced childless others ih =>
      rw [List.flatMap_cons, Node.walk_eq, childless, List.flatMap_nil, List.singleton_append,
        List.pairwise_cons]
      exact ⟨fun _ _ => .inl (startsBy_of_loc_eq_none (.inl unplaced)), ih among turn⟩

/-- Parts that stand as they are taken. -/
theorem Taken.spread_children (laid : WellLaid top) (inside : Inside top tree)
    (taken : Taken source top parts nodes) (inOrder : parts.Sublist tree.children) :
    Spread source top tree nodes :=
  taken.spread laid inside (fun _ member => inOrder.mem member)
    (((laid tree inside).inOrder.sublist inOrder).imp .inl)

theorem mem_children_of_turns (member : part ∈ turns tree) : part ∈ tree.children := by
  have under {fields : List String} (isUnder : part ∈ tree.under fields) : part ∈ tree.children :=
    Concrete.mem_children_of_under isUnder
  have body {headers : List String} (inBody : part ∈ tree.bodyParts headers) :
      part ∈ tree.children :=
    Concrete.mem_children_of_bodyParts inBody
  have caseOf (inCase : part ∈ tree.under ["value"] ++ tree.namedChildren.filter isCaseArm ++
      (tree.namedChildren.filter isElse).getLast?.toList) : part ∈ tree.children := by
    rcases List.mem_append.mp inCase with front | orelse
    · refine (List.mem_append.mp front).elim under fun isArm => ?_
      exact Concrete.mem_children_of_namedChildren (List.mem_filter.mp isArm).1
    · have isElse := List.mem_of_getLast? (Option.mem_toList.mp orelse)
      exact Concrete.mem_children_of_namedChildren (List.mem_filter.mp isElse).1
  have arm (inArm : part ∈ caseArmParts tree) : part ∈ tree.children :=
    (List.mem_append.mp inArm).elim (fun pattern => (List.mem_filter.mp pattern).1) under
  unfold turns at member
  split at member
  -- the cases stand in the order of the kinds
  next => exact (List.mem_append.mp member).elim under body
  next => exact (List.mem_append.mp member).elim under body
  next => exact (List.mem_append.mp member).elim under body
  next =>
    refine (List.mem_append.mp member).elim under fun attached => ?_
    exact mem_children_of_attachedBlock? (Option.mem_toList.mp attached)
  next => exact under member
  next => exact under member
  next => exact under member
  next => exact under member
  next => exact under member
  next => exact under member
  next => exact caseOf member
  next => exact caseOf member
  next => exact arm member
  next => exact arm member
  next => exact under member
  next => exact under member
  next =>
    refine (List.mem_append.mp member).elim under fun beside => ?_
    exact Concrete.mem_children_of_shown (List.mem_filter.mp beside).1
  next => cases member

/-- Parts that a construct asks for. -/
theorem Taken.spread_turns (laid : WellLaid top) (inside : Inside top tree)
    (taken : Taken source top parts nodes) (asked : turns tree = parts) :
    Spread source top tree nodes := by
  subst asked
  apply taken.spread laid inside
  · exact fun _ member => mem_children_of_turns member
  · exact List.pairwise_iff_forall_sublist.mpr .inr

/-! ### Nodes around what is read -/

/-- A node that is put around the first of some nodes starts no later than any of them. -/
theorem Spread.wrap (laid : WellLaid top) (inside : Inside top tree)
    (stands : StandsFor source tree node)
    (spread : Spread source top tree (node.children ++ rest)) :
    Spread source top tree (node :: rest) := by
  have walks : (node :: rest).flatMap Node.walk =
      node :: (node.children ++ rest).flatMap Node.walk := by
    rw [List.flatMap_cons, Node.walk_eq, List.flatMap_append, List.cons_append]
  constructor
  · intro inner member placed
    -- the node itself, or one that it is put around, or one of the others
    rw [walks, List.mem_cons] at member
    rcases member with rfl | below
    · exact ⟨tree, .here, stands⟩
    · exact spread.origin inner below placed
  · rw [walks, List.pairwise_cons]
    refine ⟨fun inner below => ?_, spread.inTurn⟩
    by_cases unplaced : inner.loc = none
    · exact .inl (startsBy_of_loc_eq_none (.inr unplaced))
    · obtain ⟨origin, deeper, read⟩ := spread.origin inner below unplaced
      exact .inl (startsBy_of_origins stands read ((laid.inside inside).within deeper).1)

theorem Spread.around (laid : WellLaid top) (inside : Inside top tree)
    (stands : StandsFor source tree node) (spread : Spread source top tree node.children) :
    Spread source top tree [node] :=
  .wrap laid inside stands (by rwa [List.append_nil])

theorem Spread.nothing : Spread source top tree [] :=
  ⟨fun _ member => absurd member List.not_mem_nil, .nil⟩

theorem Spread.leaf (laid : WellLaid top) (inside : Inside top tree)
    (stands : StandsFor source tree node) (childless : node.children = []) :
    Spread source top tree [node] :=
  .around laid inside stands (childless ▸ .nothing)

/-! ### Readings of parts -/

/-- What is below a node is read in turn. -/
def KnownBelow (source : Source) (top tree : Concrete) : Prop :=
  ∀ inner, Below tree inner → Spread source top inner [(read source inner).node]

section Parts

variable (laid : WellLaid top) (inside : Inside top tree) (known : KnownBelow source top tree)

theorem KnownBelow.child (known : KnownBelow source top tree) (isChild : part ∈ tree.children) :
    Spread source top part [(read source part).node] :=
  known part (below_child isChild)

theorem KnownBelow.deeper (known : KnownBelow source top tree) (isChild : part ∈ tree.children) :
    KnownBelow source top part :=
  fun inner below => known inner (below.deeper isChild)

include laid

theorem spread_statement (inside : Inside top part)
    (here : Spread source top part [(read source part).node]) :
    Spread source top part [statement source (read source part)] := by
  unfold statement
  split
  · rw [tree_read]
    exact .leaf laid inside (.plain rfl rfl) rfl
  · exact here

include inside known

theorem taken_statement (children : ∀ part ∈ parts, part ∈ tree.children) :
    Taken source top parts ((parts.map (read source)).map (statement source)) := by
  rw [List.map_map]
  exact .map fun part isPart => spread_statement laid (inside.child (children part isPart))
    (known.child (children part isPart))

omit laid inside in
theorem taken_nodes (children : ∀ part ∈ parts, part ∈ tree.children) :
    Taken source top parts ((parts.map (read source)).map (·.node)) := by
  rw [List.map_map]
  exact .map fun part isPart => known.child (children part isPart)

/-- A part in the place of statements is either a sequence of them or a statement itself. -/
theorem spread_statements (here : Spread source top tree [(read source tree).node]) :
    Spread source top tree (statements source (read source tree)) := by
  unfold statements
  split
  · rw [parts_read, shownParts_readAll]
    apply Taken.spread_children laid inside
    · exact taken_statement laid inside known fun _ => Concrete.mem_children_of_shown
    · exact List.filter_sublist
  · exact spread_statement laid inside here

omit laid inside in
/-- A part that may be absent, with what stands for it then. -/
theorem taken_getD {fallback : Node} (unplaced : fallback.loc = none)
    (childless : fallback.children = []) (field : String) :
    Taken source top (tree.child? field).toList
      [(nodeOf (part? (readAll source tree.children) field)).getD fallback] := by
  rw [part?_child?]
  cases found : tree.child? field with
  | none => exact .absent unplaced childless .nil
  | some child => exact .single (known.child (Concrete.mem_children_of_child? found))

omit laid inside in
theorem taken_required (field : String) :
    Taken source top (tree.child? field).toList
      [requiredNode (part? (readAll source tree.children) field)] :=
  taken_getD known rfl rfl field

omit laid inside in
theorem taken_nodeOf (field : String) :
    Taken source top (tree.child? field).toList
      (nodeOf (part? (readAll source tree.children) field)).toList := by
  rw [part?_child?]
  cases found : tree.child? field with
  | none => exact .nil
  | some child => exact .single (known.child (Concrete.mem_children_of_child? found))

theorem spread_statements_child (isChild : part ∈ tree.children) :
    Spread source top part (statements source (read source part)) :=
  spread_statements laid (inside.child isChild) (known.deeper isChild) (known.child isChild)

theorem taken_statementsOf (field : String) :
    Taken source top (tree.child? field).toList
      (statementsOf source (part? (readAll source tree.children) field)) := by
  rw [part?_child?]
  cases found : tree.child? field with
  | none => exact .nil
  | some child =>
    have isChild := Concrete.mem_children_of_child? found
    exact .single (spread_statements_child laid inside known isChild)

theorem taken_bodyOf (headers : List String) :
    Taken source top (tree.bodyParts headers)
      (bodyOf source (readAll source tree.children) headers) := by
  rw [bodyOf, part?_child?, Concrete.bodyParts]
  cases found : tree.child? "body" with
  | none =>
    rw [Option.map_none, partsBeside_readAll]
    exact taken_statement laid inside known fun _ member =>
      Concrete.mem_children_of_shown (List.mem_filter.mp member).1
  | some body =>
    have isChild := Concrete.mem_children_of_child? found
    exact .single (spread_statements_child laid inside known isChild)

omit laid inside known in
theorem bodyParts_sublist (tree : Concrete) (headers : List String) :
    (tree.bodyParts headers).Sublist tree.children := by
  unfold Concrete.bodyParts
  split
  next body found => exact List.singleton_sublist.mpr (Concrete.mem_children_of_child? found)
  next => exact List.filter_sublist.trans List.filter_sublist

/-- A construct that is read off its body only. -/
theorem spread_body {headers : List String} (stands : StandsFor source tree node)
    (body : node.children = bodyOf source (readAll source tree.children) headers) :
    Spread source top tree [node] := by
  apply Spread.around laid inside stands
  rw [body]
  exact (taken_bodyOf laid inside known headers).spread_children laid inside
    (bodyParts_sublist tree headers)

/-- A construct that lists its parts as they stand. -/
theorem spread_shown (stands : StandsFor source tree node)
    (listed : node.children = (shownParts (readAll source tree.children)).map (·.node)) :
    Spread source top tree [node] := by
  apply Spread.around laid inside stands
  rw [listed, shownParts_readAll]
  exact (taken_nodes known fun _ => Concrete.mem_children_of_shown).spread_children laid inside
    List.filter_sublist

/-! ### Constructs -/

/-- An arm is put around its condition and its consequence, and its alternatives follow. -/
theorem spread_chainArm
    (asked : turns tree = tree.under ["condition", "consequence", "alternative"])
    (further : Taken source top (tree.child? "alternative").toList rest) :
    Spread source top tree (chainArm source tree (readAll source tree.children) :: rest) := by
  have parts := ((taken_nodeOf known "condition").append
    (taken_statementsOf laid inside known "consequence")).append further
  apply Spread.wrap laid inside (.plain rfl rfl)
  apply parts.spread_turns laid inside
  simp [asked, Concrete.under]

theorem spread_chainRest (here : Spread source top tree [(read source tree).node]) :
    let rest := chainRest source (read source tree)
    Spread source top tree (rest.1 ++ rest.2.getD []) := by
  -- along the alternatives, each of which is a child of the one before
  induction tree using alternativeArms.induct with
  | case1 alternative isElsif further next ih =>
    have isChild := Concrete.mem_children_of_child? next
    have later := ih (inside.child isChild) (known.deeper isChild) (known.child isChild)
    dsimp only at later ⊢
    rw [chainRest_elsif source alternative isElsif, followers, next, Option.elim_some,
      List.cons_append]
    apply spread_chainArm laid inside known (by rw [turns, isElsif]; rfl)
    rw [next]
    exact .single later
  | case2 alternative isElsif next =>
    dsimp only
    rw [chainRest_elsif source alternative isElsif, followers, next, Option.elim_none,
      List.cons_append]
    apply spread_chainArm laid inside known (by rw [turns, isElsif]; rfl)
    rw [next]
    exact .nil
  | case3 alternative isElse =>
    rw [chainRest_end source alternative isElse]
    exact spread_statements laid inside known here

theorem spread_chain
    (asked : turns tree = tree.under ["condition", "consequence", "alternative"])
    (form : Branching) (negated : Bool) :
    Spread source top tree [chain source form negated tree (readAll source tree.children)] := by
  rw [chain_readAll]
  apply Spread.around laid inside (.plain rfl rfl)
  apply spread_chainArm laid inside known asked
  unfold followers
  cases next : tree.child? "alternative" with
  | none => exact .nil
  | some further =>
    have isChild := Concrete.mem_children_of_child? next
    exact .single (spread_chainRest laid (inside.child isChild) (known.deeper isChild)
      (known.child isChild))

theorem spread_modified (asked : turns tree = tree.under ["condition", "body"])
    (negated : Bool) :
    Spread source top tree [modified source negated tree (readAll source tree.children)] := by
  have body : Taken source top (tree.child? "body").toList
      ((part? (readAll source tree.children) "body").toList.map (statement source)) := by
    rw [part?_child?]
    cases found : tree.child? "body" with
    | none => exact .nil
    | some child =>
      have isChild := Concrete.mem_children_of_child? found
      exact .single (spread_statement laid (inside.child isChild) (known.child isChild))
  -- a chain of one arm, both in the place of the whole construct
  apply Spread.around laid inside (.plain rfl rfl)
  apply Spread.around laid inside (.plain rfl rfl)
  apply ((taken_nodeOf known "condition").append body).spread_turns laid inside
  simp [asked, Concrete.under]

theorem spread_ternaryOf
    (asked : turns tree = tree.under ["condition", "consequence", "alternative"]) :
    Spread source top tree [ternaryOf source tree (readAll source tree.children)] := by
  have parts := ((taken_nodeOf known "condition").append (taken_nodeOf known "consequence")).append
    (taken_nodeOf known "alternative")
  apply Spread.around laid inside (.plain rfl rfl)
  apply Spread.wrap laid inside (.plain rfl rfl)
  apply parts.spread_turns laid inside
  simp [asked, Concrete.under]

/-- The arm of a case is put around its patterns, which are gathered, and its body. -/
theorem spread_caseArm (asked : turns tree = caseArmParts tree) :
    Spread source top tree [caseArm source (read source tree)] := by
  have patterns : Taken source top (tree.children.filter (·.field == some "pattern"))
      ((partsNamed (readAll source tree.children) "pattern").map (·.node)) := by
    rw [partsNamed_readAll]
    exact taken_nodes known fun _ member => (List.mem_filter.mp member).1
  rw [caseArm, tree_read, parts_read]
  apply Spread.around laid inside (.plain rfl rfl)
  apply Spread.wrap laid inside (.plain rfl rfl)
  apply (patterns.append (taken_statementsOf laid inside known "body")).spread_turns laid inside
  simp [asked, caseArmParts, Concrete.under]

theorem spread_caseFrom
    (asked : turns tree = tree.under ["value"] ++ tree.namedChildren.filter isCaseArm ++
      (tree.namedChildren.filter isElse).getLast?.toList) :
    Spread source top tree [caseFrom source tree (readAll source tree.children)] := by
  -- the value, then each arm with its patterns, then what stands under the last `else`
  have arms : Taken source top (tree.namedChildren.filter isCaseArm)
      (((tree.namedChildren.filter isCaseArm).map (read source)).map (caseArm source)) := by
    rw [List.map_map]
    refine .map fun arm member => ?_
    obtain ⟨isNamed, isArm⟩ := List.mem_filter.mp member
    have isChild := Concrete.mem_children_of_namedChildren isNamed
    refine spread_caseArm laid (inside.child isChild) (known.deeper isChild) ?_
    simp only [isCaseArm, decide_eq_true_eq] at isArm
    rcases isArm with isWhen | isIn
    · rw [turns, isWhen]
      rfl
    · rw [turns, isIn]
      rfl
  have orelse : Taken source top (tree.namedChildren.filter isElse).getLast?.toList
      ((((tree.namedChildren.filter isElse).map (read source)).getLast?.map
        (statements source)).getD []) := by
    rw [List.getLast?_map]
    cases last : (tree.namedChildren.filter isElse).getLast? with
    | none => exact .nil
    | some part =>
      have isNamed := (List.mem_filter.mp (List.mem_of_getLast? last)).1
      have isChild := Concrete.mem_children_of_namedChildren isNamed
      exact .single (spread_statements_child laid inside known isChild)
  rw [caseFrom_readAll]
  apply Spread.around laid inside (.plain rfl rfl)
  apply (((taken_nodeOf known "value").append arms).append orelse).spread_turns laid inside
  simp [asked, Concrete.under]

theorem spread_blockOf : Spread source top tree [blockOf source (read source tree)] := by
  rw [blockOf, parts_read, tree_read]
  exact spread_body laid inside known (.plain rfl rfl) rfl

theorem spread_callFrom
    (asked : turns tree = tree.under ["receiver", "arguments"] ++ (attachedBlock? tree).toList) :
    Spread source top tree [callFrom source tree (readAll source tree.children)] := by
  -- the arguments are the parts of a list that leaves no node of its own
  have arguments : Taken source top (tree.child? "arguments").toList
      ((part? (readAll source tree.children) "arguments").elim [] fun part =>
        (shownParts part.parts).map (·.node)) := by
    rw [part?_child?]
    cases found : tree.child? "arguments" with
    | none => exact .nil
    | some list =>
      have isChild := Concrete.mem_children_of_child? found
      rw [Option.map_some, Option.elim_some, parts_read, shownParts_readAll]
      apply Taken.single
      exact (taken_nodes (known.deeper isChild) fun _ =>
        Concrete.mem_children_of_shown).spread_children laid (inside.child isChild)
          List.filter_sublist
  have block : Taken source top (attachedBlock? tree).toList
      (((attachedBlock? tree).map (read source)).map (blockOf source)).toList := by
    cases found : attachedBlock? tree with
    | none => exact .nil
    | some part =>
      have isChild := mem_children_of_attachedBlock? found
      exact .single (spread_blockOf laid (inside.child isChild) (known.deeper isChild))
  rw [callFrom, attached_readAll]
  apply Spread.around laid inside (.plain rfl rfl)
  apply (((taken_nodeOf known "receiver").append arguments).append block).spread_turns laid inside
  simp [asked, Concrete.under]

theorem spread_returnFrom :
    Spread source top tree [returnFrom source tree (readAll source tree.children)] := by
  have values : Spread source top tree (((returnParts tree).map (read source)).map (·.node)) := by
    rw [returnParts, List.map_flatMap, List.map_flatMap]
    refine (Taken.flatMap fun part isNamed => ?_).spread_children laid inside List.filter_sublist
    have isChild := Concrete.mem_children_of_namedChildren isNamed
    split
    · -- the values are the named parts of a list of arguments
      exact (taken_nodes (known.deeper isChild) fun _ =>
        Concrete.mem_children_of_namedChildren).spread_children laid (inside.child isChild)
          List.filter_sublist
    · split
      · exact .nothing
      · exact known.child isChild
  rw [returnFrom_readAll]
  unfold returnedOf
  split
  next none => exact .leaf laid inside (.plain rfl rfl) rfl
  next value one =>
    rw [one] at values
    exact .around laid inside (.plain rfl rfl) values
  next =>
    apply Spread.around laid inside (.plain rfl rfl)
    exact .around laid inside (.plain rfl rfl) values

theorem spread_unaryFrom :
    Spread source top tree [unaryFrom source tree (readAll source tree.children)] := by
  have operand : Spread source top tree
      [requiredNode (part? (readAll source tree.children) "operand")] := by
    apply (taken_required known "operand").spread_children laid inside
    cases found : tree.child? "operand" with
    | none => exact List.nil_sublist _
    | some child => exact List.singleton_sublist.mpr (Concrete.mem_children_of_child? found)
  unfold unaryFrom
  dsimp only
  split
  · split <;> exact .around laid inside (.plain rfl rfl) operand
  · exact .around laid inside (.plain rfl rfl) operand

theorem spread_parenthesized :
    Spread source top tree [parenthesized source tree (readAll source tree.children)] := by
  have inOrder : tree.shown.Sublist tree.children := List.filter_sublist
  have listed := (taken_nodes known fun _ => inOrder.mem).spread_children laid inside inOrder
  rw [parenthesized, shownParts_readAll]
  split
  next inner one =>
    rw [one] at listed
    exact listed
  next => exact .around laid inside (.plain rfl rfl) listed

theorem taken_superclass :
    Taken source top (tree.child? "superclass").toList
      (superclassOf (readAll source tree.children)).toList := by
  rw [superclassOf, part?_child?]
  cases found : tree.child? "superclass" with
  | none => exact .nil
  | some field =>
    have isChild := Concrete.mem_children_of_child? found
    apply Taken.single
    -- the field holds a sign of inheritance in front of the class
    rw [Option.map_some, Option.bind_some, parts_read, namedParts_readAll, List.head?_map]
    cases first : field.namedChildren.head? with
    | none => exact .nothing
    | some inner =>
      have isInner := Concrete.mem_children_of_namedChildren (List.mem_of_head? first)
      exact (Taken.single ((known.deeper isChild).child isInner)).spread_children laid
        (inside.child isChild) (List.singleton_sublist.mpr isInner)

theorem spread_required
    (asked : turns tree = tree.under [left, right]) (stands : StandsFor source tree node)
    (sides : node.children = [requiredNode (part? (readAll source tree.children) left),
      requiredNode (part? (readAll source tree.children) right)]) :
    Spread source top tree [node] := by
  have parts := (taken_required known left).append (taken_required known right)
  apply Spread.around laid inside stands
  rw [sides]
  apply parts.spread_turns laid inside
  simp [asked, Concrete.under]

/-- A definition with a header in front of its body. -/
theorem spread_headed {field : String} {headers : List String} {header : List Node}
    (asked : turns tree = tree.under [field] ++ tree.bodyParts headers)
    (head : Taken source top (tree.child? field).toList header)
    (stands : StandsFor source tree node)
    (children : node.children = header ++ bodyOf source (readAll source tree.children) headers) :
    Spread source top tree [node] := by
  have parts := head.append (taken_bodyOf laid inside known headers)
  apply Spread.around laid inside stands
  rw [children]
  apply parts.spread_turns laid inside
  simp [asked, Concrete.under]

theorem spread_build :
    Spread source top tree [build source tree (readAll source tree.children)] := by
  unfold build
  dsimp only
  split
  -- the cases stand in the order of the kinds
  next =>
    apply Spread.around laid inside (.plain rfl rfl)
    rw [Node.children, shownParts_readAll]
    exact (taken_statement laid inside known fun _ => Concrete.mem_children_of_shown).spread_children
      laid inside List.filter_sublist
  next kind =>
    exact spread_headed laid inside known (by rw [turns, kind]; rfl)
      (taken_superclass laid inside known) (.plain rfl rfl) rfl
  next => exact spread_body laid inside known (.plain rfl rfl) rfl
  next kind =>
    exact spread_headed laid inside known (by rw [turns, kind]; rfl)
      (taken_getD known rfl rfl "value") (.plain rfl rfl) rfl
  next kind =>
    exact spread_body laid inside known ⟨rfl, fun _ => by simp [Concrete.definesRoutine, kind]⟩ rfl
  next kind =>
    exact spread_headed laid inside known (by rw [turns, kind]; rfl)
      (taken_getD known rfl rfl "object")
      ⟨rfl, fun _ => by simp [Concrete.definesRoutine, kind]⟩ rfl
  next kind => exact spread_callFrom laid inside known (by rw [turns, kind]; rfl)
  next => exact spread_body laid inside known (.plain rfl rfl) rfl
  next => exact spread_body laid inside known (.plain rfl rfl) rfl
  next kind => exact spread_chain laid inside known (by rw [turns, kind]; rfl) _ _
  next kind => exact spread_chain laid inside known (by rw [turns, kind]; rfl) _ _
  next kind => exact spread_modified laid inside known (by rw [turns, kind]; rfl) _
  next kind => exact spread_modified laid inside known (by rw [turns, kind]; rfl) _
  next kind => exact spread_ternaryOf laid inside known (by rw [turns, kind]; rfl)
  next kind => exact spread_caseFrom laid inside known (by rw [turns, kind]; rfl)
  next kind => exact spread_caseFrom laid inside known (by rw [turns, kind]; rfl)
  next => exact spread_returnFrom laid inside known
  next kind =>
    exact spread_required laid inside known (by rw [turns, kind]; rfl) (.plain rfl rfl) rfl
  next kind =>
    exact spread_required laid inside known (by rw [turns, kind]; rfl) (.plain rfl rfl) rfl
  next => exact spread_unaryFrom laid inside known
  next => exact spread_parenthesized laid inside known
  next kind =>
    have beside : (tree.shownBeside ["object"]).Sublist tree.children :=
      List.filter_sublist.trans List.filter_sublist
    have parts := (taken_required known "object").append (taken_nodes known fun _ => beside.mem)
    apply Spread.around laid inside (.plain rfl rfl)
    rw [Node.children, partsBeside_readAll]
    apply parts.spread_turns laid inside
    rw [turns, kind]
    simp [Concrete.under]
  next => exact .leaf laid inside (.plain rfl rfl) rfl
  next => exact .leaf laid inside (.plain rfl rfl) rfl
  next => exact .leaf laid inside (.plain rfl rfl) rfl
  next => exact .leaf laid inside (.plain rfl rfl) rfl
  next => exact .leaf laid inside (.plain rfl rfl) rfl
  next => exact .leaf laid inside (.plain rfl rfl) rfl
  next => exact .leaf laid inside (.plain rfl rfl) rfl
  next => split <;> exact .leaf laid inside (.plain rfl rfl) rfl
  next => exact .leaf laid inside (.plain rfl rfl) rfl
  next => exact spread_shown laid inside known (.plain rfl rfl) rfl

end Parts

/-- What is read off a concrete node lies in its span, and is in turn. -/
theorem spread_read {tree : Concrete} (laid : WellLaid top) (inside : Inside top tree) :
    Spread source top tree [(read source tree).node] := by
  rw [node_read]
  -- what is below a node is smaller than the node
  apply spread_build laid inside
  intro inner below
  have smaller := below.sizeOf_lt
  exact spread_read laid (inside.trans below.inside)
termination_by sizeOf tree

end SpecLint.Routine
