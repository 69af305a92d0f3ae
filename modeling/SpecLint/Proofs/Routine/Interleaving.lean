import SpecLint.Proofs.Routine.Precedence

/-!
# Markers taken in any order

The state of a scope is read in steps. One kind of step takes the targeted markers of some
statements, the other goes through their sections up to a statement at which it stops. Each kind
has a part of the state to itself.

## Main result

`run_determined`: after any steps a name has the override of the last literal that names it in a
marker call taken so far, and the section is the last one met before a stop. Steps of different
kinds may change places.

## Proof strategy

A step of either kind is written as a change to its own component. The change depends on the markers
and on the switch for sections, which no step touches, and not on the other component. So two
neighbouring steps of different kinds commute, and by induction all steps that take overrides can
be moved to the front. What a run does to one component is an induction on the steps, with the
start state left arbitrary.
-/
namespace SpecLint

open SpecLint.Code

/-! ### The last to say anything, or what was there before -/

/-- `found` is what the last item that gives anything gives, and `before` if none does. -/
def Supersedes {α β : Type} (gives? : α → Option β) (items : List α) (before found : Option β) :
    Prop :=
  (∃ given, LastGives gives? items given ∧ found = some given) ∨
    ((∀ item ∈ items, gives? item = none) ∧ found = before)

theorem supersedes_iff {α β : Type} (gives? : α → Option β) (items : List α)
    (before found : Option β) :
    Supersedes gives? items before found ↔
      found = (items.reverse.findSome? gives?).or before := by
  have silent : (∀ item ∈ items, gives? item = none) ↔ items.reverse.findSome? gives? = none := by
    simp only [List.findSome?_eq_none_iff, List.mem_reverse]
  simp only [Supersedes, lastGives_iff, silent]
  cases items.reverse.findSome? gives? <;> simp

/-- The last item of several rows is the last one of the last row that says anything. -/
theorem findSome?_reverse_flatMap {α β γ : Type} (row : α → List β) (gives? : β → Option γ)
    (items : List α) :
    (items.flatMap row).reverse.findSome? gives? =
      items.reverse.findSome? fun item => (row item).reverse.findSome? gives? := by
  induction items with
  | nil => rfl
  | cons item items ih =>
    simp only [List.flatMap_cons, List.reverse_append, List.findSome?_append, ih, List.reverse_cons,
      List.findSome?_cons, List.findSome?_nil]
    cases (row item).reverse.findSome? gives? <;> rfl

/-! ### Steps and what they meet -/

/-- A step of reading a scope: take the overrides of statements, or go through their sections up to
a statement that need not be among them. -/
inductive VisibilityStep where
  | collect (statements : List Node)
  | fold (statements : List Site) (stop : Option Site)

namespace VisibilityStep

def collects : VisibilityStep → Bool
  | .collect _ => true
  | .fold .. => false

/-- The arguments of a statement, each next to the statement. -/
def argumentsOf : Node → List (Node × Node)
  | .call receiver name args attached loc =>
    args.map fun arg => (.call receiver name args attached loc, arg)
  | _ => []

/-- The arguments that a step comes across, in the order of the statements. -/
def collected : VisibilityStep → List (Node × Node)
  | .collect statements => statements.flatMap argumentsOf
  | .fold .. => []

/-- The statements that a step goes through, which are those in front of its stop. -/
def passed : VisibilityStep → List Node
  | .collect _ => []
  | .fold statements none => statements.map (·.node)
  | .fold statements (some stop) => (statements.takeWhile (!·.same stop)).map (·.node)

/-- What an argument gives a name: it is a literal of that name, in a call of a marker that has
neither receiver nor block. -/
def naming? (markers : MarkerTable) (name : String) : Node × Node → Option Visibility
  | (.call none marker _ none _, arg) => if arg.literal? = some name then markers marker else none
  | _ => none

/-- Whichever argument names the name, the call gives it the same. -/
theorem findSome?_literal (name : String) (gives : Option Visibility) (args : List Node) :
    (args.findSome? fun arg => if arg.literal? = some name then gives else none) =
      if name ∈ args.filterMap Node.literal? then gives else none := by
  induction args with
  | nil => rfl
  | cons arg args ih =>
    rw [List.findSome?_cons, ih]
    by_cases literal : arg.literal? = some name
    · cases gives <;> simp [literal]
    · simp [literal]

/-- The arguments of a statement give a name what the statement aims at it. -/
theorem findSome?_argumentsOf (markers : MarkerTable) (name : String) (statement : Node) :
    (argumentsOf statement).reverse.findSome? (naming? markers name) =
      aimsAt? markers name statement := by
  cases statement with
  | call receiver marker args attached loc =>
    simp only [argumentsOf, ← List.map_reverse, List.findSome?_map, Function.comp_def]
    cases receiver with
    | some receiver => simp [naming?, aimsAt?, Marker.ofNode?]
    | none =>
      cases attached with
      | some attached => simp [naming?, aimsAt?, Marker.ofNode?]
      | none =>
        simp only [naming?, findSome?_literal, aimsAt?, Marker.ofNode?]
        cases markers marker <;> simp [Marker.names]
  | _ => rfl

end VisibilityStep

namespace VisibilityState

open VisibilityStep

def take (state : VisibilityState) : VisibilityStep → VisibilityState
  | .collect statements => state.collectOverrides statements
  | .fold statements stop => state.foldSections statements stop

/-- Take the steps one after the other. -/
def run (state : VisibilityState) (steps : List VisibilityStep) : VisibilityState :=
  steps.foldl take state

/-- The same overrides in another section. -/
def within (state : VisibilityState) (cursor : Visibility) : VisibilityState :=
  { state with cursor }

/-! ### One step -/

/-- The section in which a step ends. -/
def sectionAfter (state : VisibilityState) (step : VisibilityStep) : Visibility :=
  ((if state.sections then step.passed else []).reverse.findSome?
    (opensSection? state.markers)).getD state.cursor

/-- Going through sections changes nothing but the cursor. -/
theorem take_fold (state : VisibilityState) (statements : List Site) (stop : Option Site) :
    state.take (.fold statements stop) =
      state.within (state.sectionAfter (.fold statements stop)) := by
  simp only [take, foldSections, sectionAfter]
  split
  · rw [foldl_enter]
    cases stop <;> rfl
  · rfl

/-- Taking overrides changes nothing but the overrides. -/
theorem take_collect_frame (state : VisibilityState) (statements : List Node) :
    state.take (.collect statements) =
      { state with overrides := (state.take (.collect statements)).overrides } :=
  collectOverrides_frame state statements

/-- No step touches the markers or the switch for sections. -/
theorem take_frame (state : VisibilityState) (step : VisibilityStep) :
    (state.take step).markers = state.markers ∧ (state.take step).sections = state.sections := by
  cases step with
  | collect statements => rw [take_collect_frame]; exact ⟨rfl, rfl⟩
  | fold statements stop => rw [take_fold]; exact ⟨rfl, rfl⟩

theorem override_within (state : VisibilityState) (cursor : Visibility) (statement : Node) :
    (state.within cursor).override statement = (state.override statement).within cursor := by
  have markers : (state.within cursor).markers = state.markers := rfl
  unfold override
  rw [markers]
  cases Marker.ofNode? state.markers statement with
  | none => rfl
  | some marker =>
    have aimed : ∀ (state : VisibilityState) (name : String),
        (state.within cursor).aim marker.gives name =
          (state.aim marker.gives name).within cursor := fun _ _ => rfl
    exact List.foldl_hom (within · cursor) aimed

/-- Overrides are taken in the same way in every section. -/
theorem collectOverrides_within (state : VisibilityState) (cursor : Visibility)
    (statements : List Node) :
    (state.within cursor).collectOverrides statements =
      (state.collectOverrides statements).within cursor :=
  List.foldl_hom (within · cursor) (override_within · cursor ·)

/-- Neighbouring steps of different kinds may change places. -/
theorem take_comm (state : VisibilityState) (collected : List Node) (passed : List Site)
    (stop : Option Site) :
    (state.take (.fold passed stop)).take (.collect collected) =
      (state.take (.collect collected)).take (.fold passed stop) := by
  have same : (state.take (.collect collected)).sectionAfter (.fold passed stop) =
      state.sectionAfter (.fold passed stop) := by
    rw [take_collect_frame]
    rfl
  rw [take_fold, take_fold, same]
  exact collectOverrides_within ..

/-- A name keeps the override of the last argument of a step that names it. -/
theorem lookup_take (state : VisibilityState) (step : VisibilityStep) (name : String) :
    (state.take step).overrides.lookup name =
      (step.collected.reverse.findSome? (naming? state.markers name)).or
        (state.overrides.lookup name) := by
  cases step with
  | collect statements =>
    simp only [collected, findSome?_reverse_flatMap, findSome?_argumentsOf]
    exact lookup_collectOverrides ..
  | fold statements stop =>
    rw [take_fold]
    rfl

theorem cursor_take (state : VisibilityState) (step : VisibilityStep) :
    (state.take step).cursor = state.sectionAfter step := by
  cases step with
  | collect statements => rw [take_collect_frame]; simp [sectionAfter, passed]
  | fold statements stop => rw [take_fold]; rfl

/-! ### All steps -/

theorem lookup_run (state : VisibilityState) (steps : List VisibilityStep) (name : String) :
    (state.run steps).overrides.lookup name =
      ((steps.flatMap collected).reverse.findSome? (naming? state.markers name)).or
        (state.overrides.lookup name) := by
  induction steps generalizing state with
  | nil => rfl
  | cons step steps ih =>
    have onward : state.run (step :: steps) = (state.take step).run steps := rfl
    rw [onward, ih, lookup_take, (take_frame state step).1, List.flatMap_cons, List.reverse_append,
      List.findSome?_append, Option.or_assoc]

theorem cursor_run (state : VisibilityState) (steps : List VisibilityStep) :
    (state.run steps).cursor =
      ((if state.sections then steps.flatMap passed else []).reverse.findSome?
        (opensSection? state.markers)).getD state.cursor := by
  induction steps generalizing state with
  | nil => cases state.sections <;> rfl
  | cons step steps ih =>
    have onward : state.run (step :: steps) = (state.take step).run steps := rfl
    obtain ⟨markers, sections⟩ := take_frame state step
    rw [onward, ih, cursor_take, markers, sections, sectionAfter]
    split
    · rw [List.flatMap_cons, List.reverse_append, List.findSome?_append, Option.getD_or]
    · rfl

/-- A step through sections may wait until all overrides are taken. -/
theorem run_take_fold {steps : List VisibilityStep} (collect : ∀ step ∈ steps, step.collects)
    (state : VisibilityState) (passed : List Site) (stop : Option Site) :
    (state.take (.fold passed stop)).run steps = (state.run steps).take (.fold passed stop) := by
  induction steps generalizing state with
  | nil => rfl
  | cons step steps ih =>
    obtain ⟨first, rest⟩ := List.forall_mem_cons.mp collect
    cases step with
    | fold => cases first
    | collect statements =>
      have onward : ∀ start : VisibilityState, start.run (.collect statements :: steps) =
          (start.take (.collect statements)).run steps := fun _ => rfl
      rw [onward, onward, take_comm, ih rest]

/-- All overrides may be taken before the first section is gone through. -/
theorem run_sorted (state : VisibilityState) (steps : List VisibilityStep) :
    state.run steps = (state.run (steps.filter collects)).run (steps.filter (!·.collects)) := by
  induction steps generalizing state with
  | nil => rfl
  | cons step steps ih =>
    have onward : state.run (step :: steps) = (state.take step).run steps := rfl
    rw [onward, ih]
    cases step with
    | collect statements => rfl
    | fold passed stop =>
      rw [run_take_fold fun _ member => (List.mem_filter.mp member).2]
      rfl

/-- The steps that take overrides decide alone what is overridden, the others decide alone in which
section the state ends, and the order between the two kinds does not matter. -/
theorem run_determined (state : VisibilityState) (steps : List VisibilityStep) :
    (∀ name, Supersedes (naming? state.markers name) (steps.flatMap collected)
      (state.overrides.lookup name) ((state.run steps).overrides.lookup name)) ∧
    Supersedes (opensSection? state.markers) (if state.sections then steps.flatMap passed else [])
      (some state.cursor) (some (state.run steps).cursor) ∧
    (∀ statements, (state.take (.collect statements)).cursor = state.cursor) ∧
    (∀ statements stop, (state.take (.fold statements stop)).overrides = state.overrides) ∧
    (∀ others : List VisibilityStep, others.filter collects = steps.filter collects →
      others.filter (!·.collects) = steps.filter (!·.collects) →
        state.run others = state.run steps) ∧
    (∀ name gives, (state.run steps).of name = gives ↔
      (state.run steps).overrides.lookup name = some gives ∨
        (state.run steps).overrides.lookup name = none ∧ (state.run steps).cursor = gives) := by
  refine ⟨?_, ?_, ?_, ?_, ?_, ?_⟩
  · intro name
    exact (supersedes_iff ..).mpr (lookup_run state steps name)
  · rw [supersedes_iff, cursor_run]
    cases (if state.sections then steps.flatMap passed else []).reverse.findSome?
      (opensSection? state.markers) <;> rfl
  · intro statements
    rw [take_collect_frame]
  · intro statements stop
    rw [take_fold]
    rfl
  · intro others sameCollected samePassed
    rw [run_sorted state others, run_sorted state steps, sameCollected, samePassed]
  · intro name gives
    unfold of
    cases (state.run steps).overrides.lookup name <;> simp

/-! A class with a section that hides, a marker aimed at the first of its two methods, and them. -/

def markedClass : Site :=
  Site.root (.classDef "User" none
    [.call none "private" [] none none, .call none "public" [.symbol "find" none] none none,
      .methodDef "find" [] none, .methodDef "build" [] none] none)

/-- Take the overrides of the class, then go through its sections up to the last method. -/
def collectThenFold : List VisibilityStep :=
  [.collect markedClass.node.body, .fold markedClass.statements markedClass.statements.getLast?]

theorem run_of_marked :
    collectThenFold.reverse.filter collects = collectThenFold.filter collects ∧
      collectThenFold.reverse.filter (!·.collects) = collectThenFold.filter (!·.collects) ∧
      (start .ofInstance true).run collectThenFold.reverse =
        (start .ofInstance true).run collectThenFold ∧
      ((start .ofInstance true).run collectThenFold).of "find" = .open ∧
      ((start .ofInstance true).run collectThenFold).of "build" = .hidden := by
  obtain ⟨-, -, -, -, interleaved, reading⟩ :=
    run_determined (start .ofInstance true) collectThenFold
  exact ⟨rfl, rfl, interleaved collectThenFold.reverse rfl rfl,
    (reading "find" .open).mpr (.inl (by decide)),
    (reading "build" .hidden).mpr (.inr (by decide))⟩

end VisibilityState

end SpecLint
