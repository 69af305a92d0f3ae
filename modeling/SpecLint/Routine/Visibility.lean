import SpecLint.Routine.Basic
import SpecLint.Routine.Exclusion
import SpecLint.Report.Event

/-!
# Visibility of routines

Markers are calls without a receiver such as `private`. A marker with names overrides the visibility
of those names wherever it stands in the scope; a marker without arguments starts a section and
holds from there on. A marker around the definition itself wins over both. Methods that name a
receiver answer to markers of their own and know no sections.
-/
namespace SpecLint

open SpecLint.Code SpecLint.Report

inductive Visibility where
  | open
  | hidden
  deriving DecidableEq, Repr

namespace Visibility

def name : Visibility → String
  | «open» => "public"
  | hidden => "non_public"

end Visibility

/-- What a marker gives, for methods of instances and for methods of the type. -/
def Scope.marker? : Scope → String → Option Visibility
  | .ofInstance, name =>
    [("public", .open), ("private", .hidden), ("protected", .hidden)].lookup name
  | .ofType, name =>
    [("public_class_method", .open), ("private_class_method", .hidden)].lookup name

/-- What names give as markers; all others are no markers. -/
abbrev MarkerTable := String → Option Visibility

/-- Each scope has a table of its own. -/
instance : Coe Scope MarkerTable := ⟨Scope.marker?⟩

namespace MarkerTable

/-- The markers that methods of instances answer to. -/
abbrev ofInstance : MarkerTable := Scope.ofInstance

/-- The markers that methods naming a receiver answer to. -/
abbrev ofType : MarkerTable := Scope.ofType

end MarkerTable

/-- A marker call: what it gives, and its arguments. -/
structure Marker where
  gives : Visibility
  args : List Node

/-- Read a statement as a marker: a call of a marker name without receiver and block. -/
def Marker.ofNode? (markers : MarkerTable) : Node → Option Marker
  | .call none name args none _ => (markers name).map fun gives => ⟨gives, args⟩
  | _ => none

/-- The names a marker is aimed at. -/
def Marker.names (marker : Marker) : List String := marker.args.filterMap Node.literal?

/-- The visibility in force at a statement of a scope. -/
structure VisibilityState where
  markers : MarkerTable
  /-- Whether markers without arguments start sections. -/
  sections : Bool
  cursor : Visibility
  /-- The last targeted marker of each name. -/
  overrides : List (String × Visibility)

namespace VisibilityState

def start (markers : MarkerTable) (sections : Bool) : VisibilityState :=
  ⟨markers, sections, .open, []⟩

/-- Aim at one name. -/
def aim (gives : Visibility) (state : VisibilityState) (name : String) : VisibilityState :=
  { state with overrides := (name, gives) :: state.overrides.filter (·.1 ≠ name) }

/-- Take the targeted names of one statement. -/
def override (state : VisibilityState) (statement : Node) : VisibilityState :=
  match Marker.ofNode? state.markers statement with
  | some marker => marker.names.foldl (aim marker.gives) state
  | none => state

/-- Take the targeted names of all statements. -/
def collectOverrides (state : VisibilityState) (statements : List Node) : VisibilityState :=
  statements.foldl override state

/-- Take one statement as the possible start of a section. -/
def enter (state : VisibilityState) (statement : Node) : VisibilityState :=
  match Marker.ofNode? state.markers statement with
  | some ⟨gives, []⟩ => { state with cursor := gives }
  | _ => state

/-- The statements before a given one; all of them if it is not among them. -/
def upTo (stop : Option Site) (statements : List Site) : List Site :=
  match stop with
  | some stop => statements.takeWhile fun statement => !statement.same stop
  | none => statements

/-- Go through the sections of the statements, up to a given one. -/
def foldSections (state : VisibilityState) (statements : List Site) (stop : Option Site) :
    VisibilityState :=
  if state.sections then
    (upTo stop statements).foldl (fun state site => state.enter site.node) state
  else state

def of (state : VisibilityState) (name : String) : Visibility :=
  (state.overrides.lookup name).getD state.cursor

/-- The overrides sorted by name. -/
def listing (state : VisibilityState) : List (String × Visibility) :=
  state.overrides.mergeSort fun left right => decide (left.1 ≤ right.1)

theorem lookup_aim (gives : Visibility) (state : VisibilityState) (name other : String) :
    (state.aim gives name).overrides.lookup other =
      if other = name then some gives else state.overrides.lookup other := by
  simp only [aim, List.lookup_cons]
  by_cases same : other = name
  · simp [same]
  · have apart : (other == name) = false := by simp [same]
    simp only [apart, same, if_false]
    induction state.overrides with
    | nil => rfl
    | cons entry rest ih =>
      obtain ⟨first, gives⟩ := entry
      simp only [ne_eq, decide_not] at ih ⊢
      by_cases equal : first = name
      · subst equal
        simp [List.lookup_cons, apart, ih]
      · simp [equal, List.lookup_cons, ih]

end VisibilityState

namespace Routine

/-- Whether a site opens the scope that markers around a definition belong to. -/
def opensScope (site : Site) : Bool :=
  match site.node with
  | .classDef .. | .moduleDef .. | .singletonClass .. | .program .. => true
  | _ => isTypeBlock site

def enclosingScope? (site : Site) : Option Site := site.ancestors.find? opensScope

/-- The child of a scope that contains the site. -/
def statementIn? (scope site : Site) : Option Site :=
  (site :: site.ancestors).find? fun inner => inner.parent?.any (·.same scope)

/-- What a marker around the definition gives: a call without receiver whose argument it is. -/
def inlineMarker? (markers : Scope) (site : Site) : Option Visibility :=
  match site.above with
  | (.call none name args _ _, position) :: _ =>
    if position < args.length then markers.marker? name else none
  | _ => none

/-- The markers that a definition answers to. -/
def markersOf (node : Node) : Scope :=
  match node with
  | .singletonMethodDef .. => .ofType
  | _ => .ofInstance

/-- Whether the scope groups methods of the type. -/
def isGrouping (scope : Node) : Bool :=
  match scope with
  | .singletonClass .. | .block .. => true
  | _ => false

/-- The overrides that a unit imposes on the groupings inside it. -/
def outerOverrides (scope : Site) : List (String × Visibility) :=
  if isGrouping scope.node then
    match CodeUnit.enclosing? scope with
    | some declaration =>
      ((VisibilityState.start .ofType false).collectOverrides declaration.node.body).overrides
    | none => []
  else []

/-- The visibility that markers give a definition. -/
def markedVisibility (site : Site) : Visibility :=
  match enclosingScope? site with
  | none => .open
  | some scope =>
    let markers := markersOf site.node
    match inlineMarker? markers site with
    | some gives => gives
    | none =>
      let state := { VisibilityState.start markers (markers = .ofInstance) with
        overrides := outerOverrides scope }
      let state := state.collectOverrides scope.node.body
      let state := state.foldSections scope.statements (statementIn? scope site)
      state.of site.node.declaredName

/-- The visibility of a routine: hidden if its name is excluded, if it has no place in the source,
or if it belongs to an inner unit; otherwise what the markers say. -/
def visibility (patterns : List Pattern) (routine : Routine) : Visibility :=
  if Exclusion.excludes patterns routine.name ∨ routine.loc = none ∨ insideInnerUnit routine.site
  then .hidden
  else markedVisibility routine.site

/-- Whether the routine is part of the public contract of its unit. -/
def isPublic (patterns : List Pattern) (routine : Routine) : Bool :=
  visibility patterns routine = .open

end Routine

/-- The public routines of instances that a unit declares directly. -/
def CodeUnit.publicRoutines (patterns : List Pattern) (declaration : Site) : List Routine :=
  (Routine.collect declaration none).filter fun routine =>
    routine.scope = .ofInstance ∧
      (CodeUnit.enclosing? routine.site).any (·.same declaration) ∧
      routine.isPublic patterns

/-- Their number, and the report of it; a unit known by its file name only has none. -/
def CodeUnit.countPublic (patterns : List Pattern) (unit : CodeUnit) : Nat × List Event :=
  match unit.declaration with
  | none => (0, [])
  | some declaration =>
    let count := (CodeUnit.publicRoutines patterns declaration).length
    (count, [.publicRoutines unit.name count])

end SpecLint
