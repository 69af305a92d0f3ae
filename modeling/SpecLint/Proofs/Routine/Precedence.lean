import SpecLint.Proofs.Code.Position
import SpecLint.Routine.Visibility
import Mathlib.Data.List.TakeWhile

/-!
# Precedence of markers

Four things may decide the visibility of a definition: a marker around it, a marker in its scope
that is aimed at its name, a marker of the surrounding unit aimed at it, and the section it stands
in. Each of them is stated here by itself, as the last call of its kind that says anything; the
strongest that says anything prevails, and a definition about which nothing is said is open.

## Main result

`markedVisibility_iff_prevails`: the state that runs through the statements of a scope computes this
reading, for every definition of every tree.
-/
namespace SpecLint

open SpecLint.Code

/-! ### The last to say anything -/

/-- `found` is what the last of the items that gives anything gives. -/
def LastGives {α β : Type} (gives? : α → Option β) (items : List α) (found : β) : Prop :=
  ∃ before item after, items = before ++ item :: after ∧ gives? item = some found ∧
    ∀ later ∈ after, gives? later = none

theorem lastGives_iff {α β : Type} (gives? : α → Option β) (items : List α) (found : β) :
    LastGives gives? items found ↔ items.reverse.findSome? gives? = some found := by
  rw [List.findSome?_eq_some_iff]
  constructor
  · rintro ⟨before, item, after, rfl, gives, silent⟩
    refine ⟨after.reverse, item, before.reverse, by simp, gives, ?_⟩
    intro later member
    exact silent later (List.mem_reverse.mp member)
  · rintro ⟨after, item, before, split, gives, silent⟩
    refine ⟨before.reverse, item, after.reverse, ?_, gives, ?_⟩
    · rw [← List.reverse_reverse items, split]
      simp
    · intro later member
      exact silent later (List.mem_reverse.mp member)

/-- `found` is the first of the sites that passes a test. -/
def Nearest (test : Site → Bool) (sites : List Site) (found : Site) : Prop :=
  ∃ inner outer, sites = inner ++ found :: outer ∧ test found = true ∧
    ∀ site ∈ inner, test site = false

theorem nearest_iff (test : Site → Bool) (sites : List Site) (found : Site) :
    Nearest test sites found ↔ sites.find? test = some found := by
  rw [List.find?_eq_some_iff_append]
  constructor
  · rintro ⟨inner, outer, split, passes, fail⟩
    exact ⟨passes, inner, outer, split, by simpa using fail⟩
  · rintro ⟨passes, inner, outer, split, fail⟩
    exact ⟨inner, outer, split, passes, by simpa using fail⟩

/-! ### What one statement says -/

/-- What a statement gives the name it is aimed at. -/
def aimsAt? (markers : MarkerTable) (name : String) (statement : Node) : Option Visibility :=
  (Marker.ofNode? markers statement).bind fun marker =>
    if name ∈ marker.names then some marker.gives else none

/-- What a statement gives to all that follows it. -/
def opensSection? (markers : MarkerTable) (statement : Node) : Option Visibility :=
  (Marker.ofNode? markers statement).bind fun marker =>
    if marker.args.isEmpty then some marker.gives else none

namespace VisibilityState

/-- Aiming at names changes nothing but the overrides. -/
theorem foldl_aim_frame (gives : Visibility) (names : List String) (state : VisibilityState) :
    names.foldl (aim gives) state =
      { state with overrides := (names.foldl (aim gives) state).overrides } := by
  induction names generalizing state with
  | nil => rfl
  | cons name names ih =>
    rw [List.foldl_cons, ih]
    rfl

theorem lookup_foldl_aim (gives : Visibility) (names : List String) (state : VisibilityState)
    (name : String) :
    (names.foldl (aim gives) state).overrides.lookup name =
      if name ∈ names then some gives else state.overrides.lookup name := by
  induction names generalizing state with
  | nil => simp
  | cons first names ih =>
    rw [List.foldl_cons, ih, lookup_aim]
    -- a name that is aimed at again later is overwritten there
    by_cases later : name ∈ names
    · simp [later]
    · by_cases same : name = first <;> simp [later, same]

theorem override_frame (state : VisibilityState) (statement : Node) :
    state.override statement =
      { state with overrides := (state.override statement).overrides } := by
  unfold override
  split
  · exact foldl_aim_frame ..
  · rfl

theorem lookup_override (state : VisibilityState) (statement : Node) (name : String) :
    (state.override statement).overrides.lookup name =
      (aimsAt? state.markers name statement).or (state.overrides.lookup name) := by
  unfold override aimsAt?
  cases Marker.ofNode? state.markers statement with
  | none => rfl
  | some marker =>
    simp only [lookup_foldl_aim, Option.bind_some]
    split <;> rfl

/-- Collecting overrides moves no section. -/
theorem collectOverrides_frame (state : VisibilityState) (statements : List Node) :
    state.collectOverrides statements =
      { state with overrides := (state.collectOverrides statements).overrides } := by
  induction statements generalizing state with
  | nil => rfl
  | cons statement statements ih =>
    have step : state.collectOverrides (statement :: statements) =
        (state.override statement).collectOverrides statements := rfl
    rw [step, ih, override_frame]

/-- A name keeps the last override aimed at it. -/
theorem lookup_collectOverrides (state : VisibilityState) (statements : List Node)
    (name : String) :
    (state.collectOverrides statements).overrides.lookup name =
      (statements.reverse.findSome? (aimsAt? state.markers name)).or
        (state.overrides.lookup name) := by
  induction statements generalizing state with
  | nil => simp [collectOverrides]
  | cons statement statements ih =>
    have step : state.collectOverrides (statement :: statements) =
        (state.override statement).collectOverrides statements := rfl
    have markers : (state.override statement).markers = state.markers := by
      rw [override_frame]
    -- the rest of the list comes later and is asked first
    rw [step, ih, lookup_override, markers, List.reverse_cons, List.findSome?_append,
      Option.or_assoc]
    simp [List.findSome?_cons]
    cases aimsAt? state.markers name statement <;> rfl

theorem enter_eq (state : VisibilityState) (statement : Node) :
    state.enter statement =
      { state with cursor := (opensSection? state.markers statement).getD state.cursor } := by
  unfold enter opensSection?
  cases Marker.ofNode? state.markers statement with
  | none => rfl
  | some marker =>
    obtain ⟨gives, args⟩ := marker
    cases args <;> rfl

theorem foldl_enter (state : VisibilityState) (statements : List Site) :
    statements.foldl (fun state site => state.enter site.node) state =
      { state with
        cursor := ((statements.map (·.node)).reverse.findSome?
          (opensSection? state.markers)).getD state.cursor } := by
  induction statements generalizing state with
  | nil => rfl
  | cons statement statements ih =>
    rw [List.foldl_cons, ih, enter_eq]
    simp only [List.map_cons, List.reverse_cons, List.findSome?_append, List.findSome?_cons,
      List.findSome?_nil]
    -- a section in the rest hides the one that the first statement opens
    cases (statements.map (·.node)).reverse.findSome? (opensSection? state.markers) <;>
      cases opensSection? state.markers statement.node <;> rfl

end VisibilityState

namespace Routine

/-! ### The levels of precedence -/

/-- The definition is itself an argument of a call without receiver that names a marker. -/
def Wrapped (definition : Site) (gives : Visibility) : Prop :=
  ∃ name args attached loc position outer,
    definition.above = (.call none name args attached loc, position) :: outer ∧
      position < args.length ∧ (markersOf definition.node).marker? name = some gives

/-- A marker in the body of the scope, before or after the definition, is aimed at its name. -/
def Targeted (definition scope : Site) (gives : Visibility) : Prop :=
  LastGives (aimsAt? (markersOf definition.node) definition.node.declaredName) scope.node.body gives

/-- The scope is a grouping for the type, and a marker directly in the body of the class or module
around it is aimed at the name. -/
def Imposed (definition scope : Site) (gives : Visibility) : Prop :=
  isGrouping scope.node = true ∧
    ∃ declaration, Nearest (·.node.isUnit) scope.ancestors declaration ∧
      LastGives (aimsAt? .ofType definition.node.declaredName) declaration.node.body gives

/-- The statements before the one that holds the site; all of them if none does. -/
def Preceding (site : Site) (statements earlier : List Site) : Prop :=
  (∃ holder later, statements = earlier ++ holder :: later ∧ site ∈ holder.walk) ∨
    (earlier = statements ∧ ∀ statement ∈ statements, site ∉ statement.walk)

/-- A marker without arguments stands before the statement that holds the definition. Methods that
name a receiver know no sections. -/
def Sectioned (definition scope : Site) (gives : Visibility) : Prop :=
  markersOf definition.node = .ofInstance ∧
    ∃ earlier, Preceding definition scope.statements earlier ∧
      LastGives (opensSection? .ofInstance) (earlier.map (·.node)) gives

/-- All levels, the strongest first. -/
def levels (definition scope : Site) : List (Visibility → Prop) :=
  [Wrapped definition, Targeted definition scope, Imposed definition scope,
    Sectioned definition scope]

/-- The first level that says anything decides; where none does, all is open. -/
def Prevails : List (Visibility → Prop) → Visibility → Prop
  | [], gives => gives = .open
  | level :: weaker, gives => level gives ∨ (∀ other, ¬level other) ∧ Prevails weaker gives

/-- A level that is read off an option decides exactly if that is there. -/
theorem prevails_cons {level : Visibility → Prop} {weaker : List (Visibility → Prop)}
    {given : Option Visibility} (reads : ∀ gives, level gives ↔ given = some gives)
    (gives : Visibility) :
    Prevails (level :: weaker) gives ↔
      given = some gives ∨ given = none ∧ Prevails weaker gives := by
  simp only [Prevails, reads]
  constructor
  · rintro (decided | ⟨silent, weaker⟩)
    · exact .inl decided
    · exact .inr ⟨Option.eq_none_iff_forall_ne_some.mpr silent, weaker⟩
  · rintro (decided | ⟨silent, weaker⟩)
    · exact .inl decided
    · exact .inr ⟨Option.eq_none_iff_forall_ne_some.mp silent, weaker⟩

theorem getD_or_iff (given weaker : Option Visibility) (gives : Visibility) :
    (given.or weaker).getD .open = gives ↔
      given = some gives ∨ given = none ∧ weaker.getD .open = gives := by
  cases given <;> simp

/-! ### The levels as the program computes them -/

theorem wrapped_iff (definition : Site) (gives : Visibility) :
    Wrapped definition gives ↔
      inlineMarker? (markersOf definition.node) definition = some gives := by
  constructor
  · rintro ⟨name, args, attached, loc, position, outer, frames, early, marker⟩
    simp only [inlineMarker?, frames, if_pos early, marker]
  · intro inline
    unfold inlineMarker? at inline
    split at inline
    next name args attached loc position outer frames =>
      split at inline
      next early => exact ⟨name, args, attached, loc, position, outer, frames, early, inline⟩
      next => simp at inline
    next => simp at inline

theorem targeted_iff (definition scope : Site) (gives : Visibility) :
    Targeted definition scope gives ↔
      scope.node.body.reverse.findSome?
        (aimsAt? (markersOf definition.node) definition.node.declaredName) = some gives :=
  lastGives_iff ..

theorem imposed_iff (definition scope : Site) (gives : Visibility) :
    Imposed definition scope gives ↔
      (outerOverrides scope).lookup definition.node.declaredName = some gives := by
  unfold Imposed outerOverrides
  split
  next grouping =>
    simp only [grouping, true_and, nearest_iff, CodeUnit.enclosing?]
    cases scope.ancestors.find? (·.node.isUnit) with
    | none => simp
    | some declaration =>
      simp only [Option.some.injEq, exists_eq_left', lastGives_iff,
        VisibilityState.lookup_collectOverrides]
      -- before the unit is read nothing is aimed at
      simp [VisibilityState.start]
  next other => simp [other]

theorem holdsBody_of_isUnit {node : Node} (isUnit : node.isUnit = true) : Site.HoldsBody node := by
  cases node <;> first | exact trivial | cases isUnit

theorem holdsBody_of_opensScope {scope : Site} (opens : opensScope scope = true) :
    Site.HoldsBody scope.node := by
  obtain ⟨node, above⟩ := scope
  cases node <;> trivial

/-- The statement through which a definition lies in its scope. -/
theorem statementIn?_path {site scope : Site} {inner : List (Node × Nat)} {position : Nat}
    (frames : site.above = inner ++ (scope.node, position) :: scope.above) :
    ∃ stop, statementIn? scope site = some stop ∧ stop.path = position :: scope.path := by
  -- on the frames between the definition and the scope
  induction inner generalizing site with
  | nil =>
    obtain ⟨node, above⟩ := site
    simp only [List.nil_append] at frames
    subst frames
    refine ⟨⟨node, (scope.node, position) :: scope.above⟩, ?_, rfl⟩
    simp [statementIn?, Site.parent?, Site.same]
  | cons frame inner ih =>
    obtain ⟨node, above⟩ := site
    obtain ⟨parent, index⟩ := frame
    simp only [List.cons_append] at frames
    subst frames
    -- the parent is too deep to be the scope, so the search goes on from it
    have deeper : ((⟨parent, inner ++ (scope.node, position) :: scope.above⟩ : Site).same scope) =
        false := by
      simp only [Site.same, Site.path, List.map_append, List.map_cons, beq_eq_false_iff_ne]
      intro equal
      have lengths := congrArg List.length equal
      simp at lengths
      omega
    have onward : statementIn? scope ⟨node, (parent, index) :: (inner ++
        (scope.node, position) :: scope.above)⟩ =
        statementIn? scope ⟨parent, inner ++ (scope.node, position) :: scope.above⟩ := by
      simp [statementIn?, Site.parent?, deeper, Site.ancestors, Site.enclosing]
    rw [onward]
    exact ih rfl

/-- What precedes a site among distinct statements is what is taken while they do not hold it. -/
theorem preceding_iff {site : Site} {statements earlier : List Site} (holds : Site → Bool)
    (reads : ∀ statement ∈ statements, holds statement = true ↔ site ∈ statement.walk)
    (once : statements.Pairwise fun left right => ¬(site ∈ left.walk ∧ site ∈ right.walk)) :
    Preceding site statements earlier ↔
      statements.takeWhile (fun statement => !holds statement) = earlier := by
  constructor
  · rintro (⟨holder, later, rfl, inside⟩ | ⟨rfl, outside⟩)
    · -- up to the holder nothing is held, as no other statement holds the site
      have held : holds holder = true := (reads holder (by simp)).mpr inside
      have free : ∀ statement ∈ earlier, (!holds statement) = true := by
        intro statement member
        have apart := (List.pairwise_append.mp once).2.2 statement member holder (by simp)
        have unheld := mt (reads statement (by simp [member])).mp fun within =>
          apart ⟨within, inside⟩
        simpa using unheld
      rw [List.takeWhile_append_of_pos free, List.takeWhile_cons_of_neg (by simp [held]),
        List.append_nil]
    · rw [List.takeWhile_eq_self_iff]
      intro statement member
      simpa using mt (reads statement member).mp (outside statement member)
  · rintro rfl
    -- what is left over is empty or begins with the holder
    have split := List.takeWhile_append_dropWhile (p := fun statement => !holds statement)
      (l := statements)
    cases rest : statements.dropWhile fun statement => !holds statement with
    | nil =>
      right
      rw [rest, List.append_nil] at split
      refine ⟨split, fun statement member => ?_⟩
      have free := List.mem_takeWhile_imp (split ▸ member)
      exact mt (reads statement member).mpr (by simpa using free)
    | cons holder later =>
      left
      rw [rest] at split
      refine ⟨holder, later, split.symm, ?_⟩
      have held : holds holder = true := by
        have stops := List.head_dropWhile_not (fun statement => !holds statement)
          (l := statements) (by simp [rest])
        simpa [rest] using stops
      exact (reads holder (by rw [← split]; simp)).mp held

/-- The section that the program finds itself in at the definition. -/
theorem sectioned_iff {tree : Node} {definition scope : Site}
    (inside : definition ∈ (Site.root tree).walk)
    (found : enclosingScope? definition = some scope) (gives : Visibility) :
    Sectioned definition scope gives ↔
      (if markersOf definition.node = .ofInstance then
        ((VisibilityState.upTo (statementIn? scope definition) scope.statements).map
          (·.node)).reverse.findSome? (opensSection? .ofInstance)
        else none) = some gives := by
  have holds := holdsBody_of_opensScope (List.find?_some found)
  obtain ⟨inner, position, frames⟩ := Site.mem_ancestors.mp (List.mem_of_find?_eq_some found)
  -- the search stops at the statement through which the way to the definition goes
  obtain ⟨stop, stops, path⟩ := statementIn?_path frames
  have reads : ∀ statement ∈ scope.statements,
      statement.same stop = true ↔ definition ∈ statement.walk := by
    intro statement member
    rw [Site.mem_walk_statement inside frames holds member, Site.same, beq_iff_eq, path]
  -- two statements that held it would stand at the same position
  have once : scope.statements.Pairwise fun left right =>
      ¬(definition ∈ left.walk ∧ definition ∈ right.walk) := by
    have differ := List.pairwise_map.mp (Site.nodup_paths_statements holds)
    refine differ.imp_of_mem fun inLeft inRight apart both => apart ?_
    rw [(Site.mem_walk_statement inside frames holds inLeft).mp both.1,
      (Site.mem_walk_statement inside frames holds inRight).mp both.2]
  unfold Sectioned
  split
  next ofInstance =>
    simp only [ofInstance, true_and, preceding_iff _ reads once, exists_eq_left', lastGives_iff,
      stops, VisibilityState.upTo]
  next other => simp [other]

theorem markedVisibility_of_scope {definition scope : Site}
    (found : enclosingScope? definition = some scope) :
    markedVisibility definition =
      ((inlineMarker? (markersOf definition.node) definition).or
        ((scope.node.body.reverse.findSome?
          (aimsAt? (markersOf definition.node) definition.node.declaredName)).or
          (((outerOverrides scope).lookup definition.node.declaredName).or
            (if markersOf definition.node = .ofInstance then
              ((VisibilityState.upTo (statementIn? scope definition) scope.statements).map
                (·.node)).reverse.findSome? (opensSection? .ofInstance)
            else none)))).getD .open := by
  unfold markedVisibility
  simp only [found]
  cases inlineMarker? (markersOf definition.node) definition with
  | some gives => rfl
  | none =>
    simp only [VisibilityState.of, VisibilityState.foldSections, Option.none_or]
    -- overrides and sections are kept apart in the state
    rw [VisibilityState.collectOverrides_frame]
    cases markersOf definition.node <;>
      simp [VisibilityState.start, VisibilityState.foldl_enter,
        VisibilityState.lookup_collectOverrides]

/-- A tree of a program has a scope for every definition in it. -/
theorem exists_scope_of_program {body : List Node} {loc : Option Location} {definition : Site}
    (inside : definition ∈ (Site.root (.program body loc)).walk)
    (defines : definition.node.isRoutine = true) :
    ∃ scope, Nearest opensScope definition.ancestors scope := by
  have leads := Site.mem_walk_root.mp inside
  -- the outermost frame is the program itself
  have outermost : (⟨.program body loc, []⟩ : Site) ∈ definition.ancestors := by
    rcases List.eq_nil_or_concat definition.above with top | ⟨inner, ⟨node, position⟩, frames⟩
    · rw [top] at leads
      rw [show definition.node = _ from leads] at defines
      simp [Node.isRoutine] at defines
    · rw [List.concat_eq_append] at frames
      rw [frames] at leads
      obtain ⟨rfl, _⟩ := (Site.leads_concat ..).mp leads
      exact Site.mem_ancestors.mpr ⟨inner, position, frames⟩
  have found : (enclosingScope? definition).isSome = true :=
    List.find?_isSome.mpr ⟨_, outermost, rfl⟩
  obtain ⟨scope, found⟩ := Option.isSome_iff_exists.mp found
  exact ⟨scope, (nearest_iff ..).mpr found⟩

/-- The visibility of a definition is what the strongest level that says anything says. -/
theorem markedVisibility_iff_prevails {tree : Node} {definition : Site}
    (inside : definition ∈ (Site.root tree).walk) (defines : definition.node.isRoutine = true) :
    (∀ scope, Nearest opensScope definition.ancestors scope →
      ∀ gives, markedVisibility definition = gives ↔ Prevails (levels definition scope) gives) ∧
    ((∀ scope, ¬Nearest opensScope definition.ancestors scope) →
      markedVisibility definition = .open) ∧
    (∀ body loc, tree = .program body loc →
      ∃ scope, Nearest opensScope definition.ancestors scope) := by
  refine ⟨?_, ?_, ?_⟩
  · intro scope nearest gives
    have found : enclosingScope? definition = some scope := (nearest_iff ..).mp nearest
    -- both sides become the same ladder of options, level by level
    rw [markedVisibility_of_scope found, levels, prevails_cons (wrapped_iff definition),
      prevails_cons (targeted_iff definition scope), prevails_cons (imposed_iff definition scope),
      prevails_cons (sectioned_iff inside found), getD_or_iff, getD_or_iff, getD_or_iff,
      ← Option.or_none (o := ite ..), getD_or_iff]
    simp [Prevails, eq_comm]
  · intro absent
    have missing : enclosingScope? definition = none := by
      cases found : enclosingScope? definition with
      | none => rfl
      | some scope => exact absurd ((nearest_iff ..).mpr found) (absent scope)
    simp [markedVisibility, missing]
  · rintro body loc rfl
    exact exists_scope_of_program inside defines

/-! A class whose own methods are grouped, with a marker of the class behind the group. -/

/-- The grouping: a section that opens all, and one method. -/
def groupedClass : Node :=
  .singletonClass (.selfRef none) [.call none "public" [] none none, .methodDef "find" [] none] none

def groupedUnit : Node :=
  .classDef "User" none
    [groupedClass, .call none "private_class_method" [.symbol "find" none] none none] none

def groupedProgram : Node := .program [groupedUnit] none

def groupedMethod : Site :=
  ⟨.methodDef "find" [] none, [(groupedClass, 2), (groupedUnit, 0), (groupedProgram, 0)]⟩

def groupedScope : Site := ⟨groupedClass, [(groupedUnit, 0), (groupedProgram, 0)]⟩

theorem markedVisibility_grouped :
    groupedMethod ∈ (Site.root groupedProgram).walk ∧ groupedMethod.node.isRoutine = true ∧
      Nearest opensScope groupedMethod.ancestors groupedScope ∧
      markedVisibility groupedMethod = .hidden ∧
      Prevails (levels groupedMethod groupedScope) .hidden := by
  have inside : groupedMethod ∈ (Site.root groupedProgram).walk :=
    Site.mem_walk_root.mpr ⟨rfl, rfl, rfl, rfl⟩
  have nearest : Nearest opensScope groupedMethod.ancestors groupedScope :=
    ⟨[], [⟨groupedUnit, [(groupedProgram, 0)]⟩, ⟨groupedProgram, []⟩], rfl, rfl, by simp⟩
  have hidden : markedVisibility groupedMethod = .hidden := by decide
  have reading := (markedVisibility_iff_prevails inside rfl).1 groupedScope nearest .hidden
  exact ⟨inside, rfl, nearest, hidden, reading.mp hidden⟩

end Routine

end SpecLint
