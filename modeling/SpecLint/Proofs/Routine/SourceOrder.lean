import SpecLint.Proofs.Routine.ReadingOrder
import SpecLint.Routine.Basic
import Mathlib.Data.List.Pairwise

/-!
# The order in which routines are listed

A walk visits nodes in the order of the source, as far as the constructs take their parts as they
stand. One form of conditional does not: it stands behind the statement that it guards, and what is
read off its condition is visited before what is read off that statement. So definitions that stand
in both are listed the other way round.

## Main result

`collect_in_source_order`: the nodes of a walk and the routines of a file are in the order of the
source, apart from those that are read off two parts of a construct that takes them out of turn. If
only conditionals behind a statement do so, these are a condition and the statement in front of it.
-/
namespace SpecLint.Routine

open SpecLint.Code
open SpecLint.Code.Concrete (WellLaid construct token)

/-! ### Conditionals behind a statement -/

/-- A conditional behind the statement that it guards. -/
def isModifier (tree : Concrete) : Bool :=
  tree.kind = "if_modifier" ∨ tree.kind = "unless_modifier"

/-- A construct that takes its parts as they stand. -/
def TakesInOrder (outer : Concrete) : Prop :=
  (turns outer).Pairwise fun front back => front.stop ≤ back.start

instance (outer : Concrete) : Decidable (TakesInOrder outer) :=
  inferInstanceAs (Decidable ((turns outer).Pairwise fun front back => front.stop ≤ back.start))

/-- No constructs but conditionals behind a statement take parts out of turn. -/
def PlainTurns (top : Concrete) : Prop :=
  ∀ outer, Inside top outer → isModifier outer = false → TakesInOrder outer

instance (top : Concrete) : Decidable (PlainTurns top) :=
  inferInstanceAs
    (Decidable (∀ outer, Inside top outer → isModifier outer = false → TakesInOrder outer))

/-- The earlier of two nodes is read off a condition, and the later one off the statement in front
of it. -/
def BehindItsGuard (source : Source) (top : Concrete) (earlier later : Node) : Prop :=
  ∃ outer condition body, Inside top outer ∧ isModifier outer = true ∧
    outer.child? "condition" = some condition ∧ outer.child? "body" = some body ∧
    body.stop ≤ condition.start ∧
    ReadInside source condition earlier ∧ ReadInside source body later

/-- Two nodes of which one stands wholly in front of the other. -/
def Apart (left right : Concrete) : Prop := left.stop ≤ right.start ∨ right.stop ≤ left.start

instance : Std.Symm Apart := ⟨fun _ _ => Or.symm⟩

variable {source : Source} {top tree : Concrete} {earlier later : Node}

theorem apart_of_laid (laid : tree.Laid) {left right : Concrete} (isLeft : left ∈ tree.children)
    (isRight : right ∈ tree.children) (different : left ≠ right) : Apart left right := by
  have apart : tree.children.Pairwise Apart := laid.inOrder.imp .inl
  exact apart.forall isLeft isRight different

theorem turns_of_isModifier (modifier : isModifier tree = true) :
    turns tree = (tree.child? "condition").toList ++ (tree.child? "body").toList := by
  have asked : turns tree = tree.under ["condition", "body"] := by
    simp only [isModifier, decide_eq_true_eq] at modifier
    rcases modifier with kind | kind
    · rw [turns, kind]
      rfl
    · rw [turns, kind]
      rfl
  simp [asked, Concrete.under]

/-- Two parts that a conditional behind a statement takes, one after the other. -/
theorem child?_of_sublist_turns (modifier : isModifier tree = true) {front back : Concrete}
    (turn : [front, back].Sublist (turns tree)) :
    tree.child? "condition" = some front ∧ tree.child? "body" = some back := by
  rw [turns_of_isModifier modifier] at turn
  -- two parts are taken only if both are there
  have long := turn.length_le
  cases condition : tree.child? "condition" with
  | none =>
    cases body : tree.child? "body" <;> simp [condition, body] at long
  | some guard =>
    cases body : tree.child? "body" with
    | none => simp [condition, body] at long
    | some statement =>
      rw [condition, body] at turn
      obtain ⟨rfl, rfl⟩ : front = guard ∧ back = statement := by
        simpa using turn.eq_of_length rfl
      exact ⟨rfl, rfl⟩

theorem OutOfTurn.not_takesInOrder (turned : OutOfTurn source top earlier later) :
    ∃ outer, Inside top outer ∧ ¬TakesInOrder outer := by
  obtain ⟨outer, front, back, inside, turn, overlap, -, -⟩ := turned
  exact ⟨outer, inside, fun inOrder =>
    overlap (List.pairwise_iff_forall_sublist.mp inOrder turn)⟩

/-- If only conditionals behind a statement take parts out of turn, nodes out of turn are read off
a condition and the statement in front of it. -/
theorem OutOfTurn.behindItsGuard (laid : WellLaid top) (plain : PlainTurns top)
    (turned : OutOfTurn source top earlier later) : BehindItsGuard source top earlier later := by
  obtain ⟨outer, front, back, inside, turn, overlap, isEarlier, isLater⟩ := turned
  have modifier : isModifier outer = true := by
    by_contra other
    have inOrder : TakesInOrder outer := plain outer inside (Bool.eq_false_iff.mpr other)
    exact overlap (List.pairwise_iff_forall_sublist.mp inOrder turn)
  obtain ⟨condition, body⟩ := child?_of_sublist_turns modifier turn
  refine ⟨outer, front, back, inside, modifier, condition, body, ?_, isEarlier, isLater⟩
  have different : front ≠ back := by
    rintro rfl
    have fields := (Concrete.field_of_child? condition).symm.trans (Concrete.field_of_child? body)
    exact absurd fields (by decide)
  have apart := apart_of_laid (laid outer inside) (Concrete.mem_children_of_child? condition)
    (Concrete.mem_children_of_child? body) different
  exact apart.resolve_left overlap

/-- What is read off a condition starts behind what is read off the statement in front of it. -/
theorem BehindItsGuard.startsBy (laid : WellLaid top)
    (behind : BehindItsGuard source top earlier later) : StartsBy later earlier := by
  obtain ⟨outer, condition, body, inside, -, isCondition, isBody, before, isEarlier, isLater⟩ :=
    behind
  obtain ⟨left, inCondition, forEarlier⟩ := isEarlier
  obtain ⟨right, inBody, forLater⟩ := isLater
  have conditionInside := inside.child (Concrete.mem_children_of_child? isCondition)
  have bodyInside := inside.child (Concrete.mem_children_of_child? isBody)
  have leftSpan := (laid.inside conditionInside).within inCondition
  have rightSpan := (laid.inside bodyInside).within inBody
  have forward := (laid right (bodyInside.trans inBody)).forward
  apply startsBy_of_origins forLater forEarlier
  omega

/-! ### Whole files -/

/-- A node that stands at the same place as another one may take its turn. -/
theorem InTurn.of_loc {other : Node} (turn : InTurn source top earlier later)
    (same : other.loc = earlier.loc) (plain : other.isRoutine = false) :
    InTurn source top other later := by
  rcases turn with starts | ⟨outer, front, back, inside, turn, overlap, isEarlier, isLater⟩
  · exact .inl fun first isFirst => starts first (same ▸ isFirst)
  · obtain ⟨origin, inFront, stands⟩ := isEarlier
    exact .inr ⟨outer, front, back, inside, turn, overlap,
      ⟨origin, inFront, .plain (same.trans stands.loc) plain⟩, isLater⟩

theorem startsBy_of_loc_eq (same : earlier.loc = later.loc) : StartsBy earlier later := by
  intro first isFirst second isSecond
  obtain rfl := Option.some.inj (isFirst.symm.trans (same.trans isSecond))
  exact .inr ⟨rfl, Nat.le_refl _⟩

theorem inTurn_walk (laid : WellLaid tree) :
    (programOf source tree).walk.Pairwise (InTurn source tree) := by
  have spread : Spread source tree tree [(read source tree).node] := spread_read laid .here
  have read : (read source tree).node.walk.Pairwise (InTurn source tree) := by
    simpa only [List.flatMap_singleton] using spread.inTurn
  unfold programOf
  split
  next body loc isProgram => rwa [isProgram] at read
  next =>
    -- the program that is put around the root has its place
    rw [Node.walk_eq, Node.children, List.flatMap_singleton, List.pairwise_cons]
    refine ⟨fun inner member => ?_, read⟩
    rw [Node.walk_eq] at member read
    rcases List.mem_cons.mp member with rfl | below
    · exact .inl (startsBy_of_loc_eq rfl)
    · exact ((List.pairwise_cons.mp read).1 inner below).of_loc rfl rfl

/-- The definitions of the routines of a file, in the order in which these are listed. -/
def listed (source : Source) (tree : Concrete) (path : Option Path) : List Node :=
  (collect (Site.root (programOf source tree)) path).map (·.site.node)

theorem listed_eq_filter (source : Source) (tree : Concrete) (path : Option Path) :
    listed source tree path = (programOf source tree).walk.filter Node.isRoutine := by
  rw [listed, collect, List.map_map,
    show programOf source tree = (Site.root (programOf source tree)).node from rfl,
    ← Site.map_node_walk, List.filter_map]
  rfl

/-- How nodes that are read off a tree are in the order of the source: they start one after the
other, except for those that are read off two parts of a construct that takes them out of turn. If
only conditionals behind a statement take parts out of turn, the exceptions are what is read off
such a condition and then off the statement in front of it. If no construct does, there are none. -/
structure InSourceOrder (source : Source) (tree : Concrete) (nodes : List Node) : Prop where
  inTurn : nodes.Pairwise (InTurn source tree)
  guarded : PlainTurns tree → nodes.Pairwise fun earlier later => StartsBy earlier later ∨
    BehindItsGuard source tree earlier later ∧ StartsBy later earlier
  ordered : (∀ outer, Inside tree outer → TakesInOrder outer) → nodes.Pairwise StartsBy

theorem inSourceOrder_of_inTurn (laid : WellLaid tree) {nodes : List Node}
    (inTurn : nodes.Pairwise (InTurn source tree)) : InSourceOrder source tree nodes := by
  refine ⟨inTurn, fun plain => inTurn.imp ?_, fun ordered => inTurn.imp ?_⟩
  · rintro earlier later (starts | turned)
    · exact .inl starts
    · have behind := turned.behindItsGuard laid plain
      exact .inr ⟨behind, behind.startsBy laid⟩
  · rintro earlier later (starts | turned)
    · exact starts
    · obtain ⟨outer, inside, disordered⟩ := turned.not_takesInOrder
      exact absurd (ordered outer inside) disordered

/-- In a tree whose nodes are spans of the source, one behind the other, a walk visits its nodes in
the order of the source, and the routines are listed in it. -/
theorem collect_in_source_order (source : Source) {tree : Concrete} (laid : WellLaid tree)
    (path : Option Path) :
    InSourceOrder source tree (programOf source tree).walk ∧
      InSourceOrder source tree (listed source tree path) := by
  have walked : (programOf source tree).walk.Pairwise (InTurn source tree) := inTurn_walk laid
  refine ⟨inSourceOrder_of_inTurn laid walked, inSourceOrder_of_inTurn laid ?_⟩
  rw [listed_eq_filter]
  exact walked.sublist List.filter_sublist

/-! A definition in front of its condition, and another definition behind. -/

def guardedDefinition : Source := .ofBytes "def a\nend if b\ndef c\nend\n".toUTF8

/-- A definition of two lines with a name of one letter. -/
def definitionAt (start : Nat) (field : Option String) : Concrete :=
  construct "method" start (start + 9) field
    [token "def" start (start + 3),
      construct "identifier" (start + 4) (start + 5) (some "name") [],
      token "end" (start + 6) (start + 9)]

def guardedDefinitionTree : Concrete :=
  construct "program" 0 25 none
    [construct "if_modifier" 0 14 none
      [definitionAt 0 (some "body"), token "if" 10 12,
        construct "identifier" 13 14 (some "condition") []],
      definitionAt 15 none]

/-- The condition is visited before the definition in front of it, and everything else as it stands.
-/
theorem collect_in_source_order_guarded :
    WellLaid guardedDefinitionTree ∧ PlainTurns guardedDefinitionTree ∧
      (listed guardedDefinition guardedDefinitionTree none).map Node.loc =
        [some ⟨1, 0, 2, 3⟩, some ⟨3, 0, 4, 3⟩] ∧
      ¬(programOf guardedDefinition guardedDefinitionTree).walk.Pairwise StartsBy ∧
      (programOf guardedDefinition guardedDefinitionTree).walk.Pairwise fun earlier later =>
        StartsBy earlier later ∨
          BehindItsGuard guardedDefinition guardedDefinitionTree earlier later ∧
            StartsBy later earlier := by
  have laid : WellLaid guardedDefinitionTree := by decide +kernel
  have plain : PlainTurns guardedDefinitionTree := by decide +kernel
  exact ⟨laid, plain, by decide +kernel, by decide +kernel,
    (collect_in_source_order guardedDefinition laid none).1.guarded plain⟩

def definitionInCondition : Source := .ofBytes "def a\nend if def b\nend\n".toUTF8

def definitionInConditionTree : Concrete :=
  construct "program" 0 23 none
    [construct "if_modifier" 0 22 none
      [definitionAt 0 (some "body"), token "if" 10 12, definitionAt 13 (some "condition")]]

/-- A routine that is defined in a condition is listed before the routine that is defined in the
statement in front of it. -/
theorem condition_is_listed_first :
    WellLaid definitionInConditionTree ∧
      (listed definitionInCondition definitionInConditionTree none).map Node.loc =
        [some ⟨2, 7, 3, 3⟩, some ⟨1, 0, 2, 3⟩] ∧
      ¬(listed definitionInCondition definitionInConditionTree none).Pairwise StartsBy ∧
      ¬(programOf definitionInCondition definitionInConditionTree).walk.Pairwise StartsBy := by
  decide +kernel

end SpecLint.Routine
