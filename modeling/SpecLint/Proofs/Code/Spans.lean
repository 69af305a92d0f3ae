import SpecLint.Proofs.Code.Parts
import Mathlib.Data.List.Basic
import Mathlib.Data.List.TakeWhile

/-!
# Where definitions start

The nodes of a concrete tree are spans of the source: those of its children lie in its own, one
behind the other. A definition opens with its keyword, so what is defined inside it starts later,
and no two definitions start at the same offset. As an offset has a line and a column of its own,
the place where a definition starts tells which one it is.

## Main result

`nodup_places_definitions`: no two definitions of a tree start at the same line and column.
-/
namespace SpecLint.Code

/-! ### Offsets -/

theorem le_of_mem_takeWhile {starts : List Nat} {offset start : Nat}
    (member : start ∈ starts.takeWhile (· ≤ offset)) : start ≤ offset := by
  simpa using List.mem_takeWhile_imp member

/-- The last line start up to an offset, or the start of the text. -/
theorem getD_getLast?_le (starts : List Nat) (offset : Nat) :
    (starts.takeWhile (· ≤ offset)).getLast?.getD 0 ≤ offset := by
  cases last : (starts.takeWhile (· ≤ offset)).getLast? with
  | none => exact Nat.zero_le _
  | some start => exact le_of_mem_takeWhile (List.mem_of_getLast? last)

/-- The line and the column where a location starts. -/
def Location.start (loc : Location) : Nat × Nat := (loc.line, loc.column)

/-- A line and a column stand for one offset. -/
theorem Source.point_injective (source : Source) : Function.Injective source.point := by
  intro left right same
  simp only [point, Prod.mk.injEq] at same
  obtain ⟨lines, columns⟩ := same
  -- two beginnings of one list that are equally long are equal
  have passed : source.lineStarts.takeWhile (· ≤ left) =
      source.lineStarts.takeWhile (· ≤ right) :=
    List.IsPrefix.eq_of_length (List.prefix_of_prefix_length_le (List.takeWhile_prefix _)
      (List.takeWhile_prefix _) (Nat.le_of_eq lines)) lines
  have leftLine := getD_getLast?_le source.lineStarts left
  have rightLine := getD_getLast?_le source.lineStarts right
  rw [passed] at columns leftLine
  omega

/-- One location starts no later than another one. -/
def Location.StartsBy (first second : Location) : Prop :=
  first.line < second.line ∨ first.line = second.line ∧ first.column ≤ second.column

instance (first second : Location) : Decidable (first.StartsBy second) :=
  inferInstanceAs (Decidable (_ ∨ _))

/-- The lines that have started by a later offset go on from those that have by an earlier one. -/
theorem takeWhile_le_prefix (starts : List Nat) {left right : Nat} (before : left ≤ right) :
    starts.takeWhile (· ≤ left) <+: starts.takeWhile (· ≤ right) := by
  induction starts with
  | nil => exact List.prefix_refl _
  | cons start starts ih =>
    by_cases passed : start ≤ left
    · have alsoPassed : start ≤ right := Nat.le_trans passed before
      simp only [List.takeWhile_cons, passed, alsoPassed, decide_true, if_true]
      exact (List.prefix_cons_inj start).mpr ih
    · simp [passed]

/-- What starts at a later offset starts no earlier in the text. -/
theorem Source.startsBy_locate (source : Source) {left right : Nat} (before : left ≤ right)
    (leftStop rightStop : Nat) :
    (source.locate left leftStop).StartsBy (source.locate right rightStop) := by
  have passed := takeWhile_le_prefix source.lineStarts before
  simp only [Location.StartsBy, locate, point]
  rcases Nat.lt_or_eq_of_le passed.length_le with fewer | same
  · exact .inl (Nat.succ_lt_succ fewer)
  · rw [passed.eq_of_length same]
    exact .inr ⟨rfl, Nat.sub_le_sub_right before _⟩

/-! ### Spans -/

namespace Concrete

/-- How a node lies in the source: its children one behind the other, inside its own span. -/
structure Laid (tree : Concrete) : Prop where
  forward : tree.start ≤ tree.stop
  within : ∀ child ∈ tree.children, tree.start ≤ child.start ∧ child.stop ≤ tree.stop
  inOrder : tree.children.Pairwise fun front back => front.stop ≤ back.start

instance (tree : Concrete) : Decidable (Laid tree) :=
  decidable_of_iff (tree.start ≤ tree.stop ∧
      (∀ child ∈ tree.children, tree.start ≤ child.start ∧ child.stop ≤ tree.stop) ∧
      tree.children.Pairwise fun front back => front.stop ≤ back.start)
    ⟨fun ⟨forward, within, inOrder⟩ => ⟨forward, within, inOrder⟩,
      fun laid => ⟨laid.forward, laid.within, laid.inOrder⟩⟩

/-- All nodes of a tree are spans of the source, each inside its parent. -/
def WellLaid (tree : Concrete) : Prop := ∀ inner, Inside tree inner → Laid inner

instance (tree : Concrete) : Decidable (WellLaid tree) :=
  inferInstanceAs (Decidable (∀ inner, Inside tree inner → Laid inner))

/-- What is inside a node lies in its span. -/
theorem WellLaid.within {tree inner : Concrete} (laid : WellLaid tree) (inside : Inside tree inner) :
    tree.start ≤ inner.start ∧ inner.stop ≤ tree.stop := by
  induction inside with
  | here => exact ⟨Nat.le_refl _, Nat.le_refl _⟩
  | child inside isChild ih =>
    obtain ⟨starts, stops⟩ := (laid _ inside).within _ isChild
    exact ⟨Nat.le_trans ih.1 starts, Nat.le_trans stops ih.2⟩

theorem WellLaid.inside {tree inner : Concrete} (laid : WellLaid tree)
    (inside : Inside tree inner) : WellLaid inner :=
  fun _ deeper => laid _ (inside.trans deeper)

/-- Whether a node is the definition of a method. -/
def definesRoutine (tree : Concrete) : Bool :=
  tree.kind = "method" ∨ tree.kind = "singleton_method"

/-- How a node lies in the source: its children one behind the other inside its own span, and first
of all, if it is a definition, the keyword that opens it. -/
structure Placed (tree : Concrete) : Prop where
  forward : tree.start ≤ tree.stop
  within : ∀ child ∈ tree.children, tree.start ≤ child.start ∧ child.stop ≤ tree.stop
  inOrder : tree.children.Pairwise fun front back => front.stop ≤ back.start
  opened : tree.definesRoutine = true → ∃ keyword ∈ tree.children.head?,
    keyword.kind = "def" ∧ keyword.children = [] ∧ keyword.start < keyword.stop

instance (tree : Concrete) : Decidable (Placed tree) :=
  decidable_of_iff (tree.start ≤ tree.stop ∧
      (∀ child ∈ tree.children, tree.start ≤ child.start ∧ child.stop ≤ tree.stop) ∧
      (tree.children.Pairwise fun front back => front.stop ≤ back.start) ∧
      (tree.definesRoutine = true → ∃ keyword ∈ tree.children.head?,
        keyword.kind = "def" ∧ keyword.children = [] ∧ keyword.start < keyword.stop))
    ⟨fun ⟨forward, within, inOrder, opened⟩ => ⟨forward, within, inOrder, opened⟩,
      fun placed => ⟨placed.forward, placed.within, placed.inOrder, placed.opened⟩⟩

/-- All nodes of a tree lie in the source as they should. -/
def WellPlaced (tree : Concrete) : Prop := ∀ inner, Inside tree inner → Placed inner

/-- The definitions in a tree, in the order of a walk. -/
def definitions (tree : Concrete) : List Concrete :=
  (tree.reached fun _ => true).filter definesRoutine

theorem definitions_eq (tree : Concrete) :
    tree.definitions =
      (if tree.definesRoutine then [tree] else []) ++ tree.children.flatMap definitions := by
  rw [definitions, reached_eq, if_pos rfl, List.filter_cons, List.filter_flatMap]
  split <;> rfl

theorem mem_definitions {tree inner : Concrete} :
    inner ∈ tree.definitions ↔ Inside tree inner ∧ inner.definesRoutine = true := by
  rw [definitions, List.mem_filter, mem_reached_iff]

variable {tree child inner : Concrete}

theorem WellPlaced.below (placed : WellPlaced tree) (isChild : child ∈ tree.children) :
    WellPlaced child :=
  fun _ inside => placed _ (Inside.trans (.child .here isChild) inside)

theorem WellPlaced.wellLaid (placed : WellPlaced tree) : WellLaid tree := fun _ inside =>
  ⟨(placed _ inside).forward, (placed _ inside).within, (placed _ inside).inOrder⟩

theorem WellPlaced.within (placed : WellPlaced tree) (inside : Inside tree inner) :
    tree.start ≤ inner.start ∧ inner.stop ≤ tree.stop :=
  placed.wellLaid.within inside

theorem Placed.start_lt_stop (placed : Placed tree) (defines : tree.definesRoutine = true) :
    tree.start < tree.stop := by
  obtain ⟨keyword, first, -, -, long⟩ := placed.opened defines
  obtain ⟨starts, stops⟩ := placed.within keyword (List.mem_of_head? first)
  omega

theorem definitions_keyword {keyword : Concrete} (isKeyword : keyword.kind = "def")
    (childless : keyword.children = []) : keyword.definitions = [] := by
  have silent : keyword.definesRoutine = false := by
    rw [definesRoutine, isKeyword]
    decide
  rw [definitions_eq, silent, childless]
  rfl

/-- What is defined inside a definition starts behind its keyword. -/
theorem WellPlaced.start_lt (placed : WellPlaced tree) (defines : tree.definesRoutine = true)
    (isChild : child ∈ tree.children) (member : inner ∈ child.definitions) :
    tree.start < inner.start := by
  have here := placed tree .here
  obtain ⟨keyword, first, isKeyword, childless, long⟩ := here.opened defines
  obtain ⟨starts, -⟩ := here.within keyword (List.mem_of_head? first)
  obtain ⟨rest, split⟩ := List.head?_eq_some_iff.mp first
  rw [split, List.mem_cons] at isChild
  rcases isChild with rfl | later
  · rw [definitions_keyword isKeyword childless] at member
    cases member
  · have inOrder := here.inOrder
    rw [split] at inOrder
    have behind := (List.pairwise_cons.mp inOrder).1 child later
    have deeper := ((placed.below (by rw [split]; exact List.mem_cons_of_mem _ later)).within
      (mem_definitions.mp member).1).1
    omega

/-- Definitions start one after the other in the order of a walk. -/
theorem WellPlaced.pairwise_definitions {tree : Concrete} (placed : WellPlaced tree) :
    tree.definitions.Pairwise fun front back => front.start < back.start := by
  have below : (tree.children.flatMap definitions).Pairwise fun front back =>
      front.start < back.start := by
    refine List.pairwise_flatMap.mpr ⟨fun child isChild => ?_, ?_⟩
    · have smaller := sizeOf_lt_of_mem_children isChild
      exact (placed.below isChild).pairwise_definitions
    · refine (placed tree .here).inOrder.imp_of_mem ?_
      intro front back isFront isBack apart early isEarly late isLate
      -- the earlier one ends inside its child, and the later one starts inside the next
      obtain ⟨inFront, defines⟩ := mem_definitions.mp isEarly
      have frontPlaced := placed.below isFront
      have long := (frontPlaced early inFront).start_lt_stop defines
      have ends := (frontPlaced.within inFront).2
      have starts := ((placed.below isBack).within (mem_definitions.mp isLate).1).1
      omega
  rw [definitions_eq]
  split
  next defines =>
    refine List.pairwise_cons.mpr ⟨fun inner member => ?_, below⟩
    obtain ⟨child, isChild, isInner⟩ := List.mem_flatMap.mp member
    exact placed.start_lt defines isChild isInner
  next => exact below
termination_by sizeOf tree

/-- The line and the column where a node starts. -/
def place (source : Source) (tree : Concrete) : Nat × Nat :=
  (source.locate tree.start tree.stop).start

theorem start_eq_of_place_eq {source : Source} {left right : Concrete}
    (same : left.place source = right.place source) : left.start = right.start := by
  apply source.point_injective
  simp only [place, Location.start, Source.locate, Prod.mk.injEq,
    Nat.add_right_cancel_iff] at same
  exact Prod.ext same.1 same.2

/-- No two definitions start at the same place. -/
theorem nodup_places_definitions (source : Source) (placed : WellPlaced tree) :
    (tree.definitions.map (place source)).Nodup := by
  refine List.pairwise_map.mpr (placed.pairwise_definitions.imp fun {front back} before same => ?_)
  have equal := start_eq_of_place_eq same
  omega

end Concrete

end SpecLint.Code
