import SpecLint.Proofs.Routine.Precedence

/-!
# Definitions inside of calls

A definition may be the argument of a call, which is the argument of a further one, as in
`private memoize def name`. Only the innermost of these calls is asked whether it is a marker. The
calls further out are neither sections nor aimed at the name, so they are not heard at all: what the
innermost call leaves open is decided by the scope.

## Main result

`markedVisibility_of_wrapped`: the innermost call decides if it is a marker, and else the scope.
-/
namespace SpecLint.Routine

open SpecLint.Code

/-! ### Wrappers -/

/-- A call without receiver, together with the position of one of its arguments. -/
def IsWrapper (frame : Node × Nat) : Prop :=
  ∃ name args attached loc, frame.1 = .call none name args attached loc ∧ frame.2 < args.length

/-- What a call gives as a marker. -/
def calledMarker? (markers : Scope) (frame : Node × Nat) : Option Visibility :=
  match frame.1 with
  | .call _ name _ _ _ => markers.marker? name
  | _ => none

/-- The calls around a definition, innermost first: the definition is an argument of the first, each
call is one of the next, and the last is a statement of the scope. -/
structure WrappedIn (definition scope : Site) (calls : List (Node × Nat)) : Prop where
  wrappers : ∀ call ∈ calls, IsWrapper call
  opens : opensScope scope = true
  above : ∃ index, definition.above =
    calls ++ (scope.node, index + scope.node.bodyOffset) :: scope.above

/-- What the call directly around the definition gives, if that is a marker. -/
def innermost? (definition : Site) (calls : List (Node × Nat)) : Option Visibility :=
  calls.head?.bind (calledMarker? (markersOf definition.node))

/-- A call opens no scope; its block may. -/
theorem not_opensScope_of_isWrapper {call : Node × Nat} (wrapper : IsWrapper call)
    (above : List (Node × Nat)) : opensScope ⟨call.1, above⟩ = false := by
  obtain ⟨name, args, attached, loc, same, -⟩ := wrapper
  rw [same]
  rfl

/-- The search for a scope passes calls by. -/
theorem find?_enclosing_wrappers {scope : Site} (opens : opensScope scope = true) (position : Nat)
    {calls : List (Node × Nat)} (wrappers : ∀ call ∈ calls, IsWrapper call) :
    (Site.enclosing (calls ++ (scope.node, position) :: scope.above)).find? opensScope =
      some scope := by
  induction calls with
  | nil => exact List.find?_cons_of_pos opens
  | cons call calls ih =>
    have passed := not_opensScope_of_isWrapper (wrappers call List.mem_cons_self)
      (calls ++ (scope.node, position) :: scope.above)
    rw [List.cons_append, Site.enclosing, List.find?_cons_of_neg (by simp [passed])]
    exact ih fun other member => wrappers other (List.mem_cons_of_mem _ member)

namespace WrappedIn

variable {definition scope : Site} {calls : List (Node × Nat)}

theorem enclosingScope? (wrapped : WrappedIn definition scope calls) :
    enclosingScope? definition = some scope := by
  obtain ⟨index, above⟩ := wrapped.above
  rw [Routine.enclosingScope?, Site.ancestors, above]
  exact find?_enclosing_wrappers wrapped.opens _ wrapped.wrappers

/-- The marker around the definition is that of the innermost call. -/
theorem inlineMarker?_eq (wrapped : WrappedIn definition scope calls) :
    inlineMarker? (markersOf definition.node) definition = innermost? definition calls := by
  obtain ⟨index, above⟩ := wrapped.above
  unfold inlineMarker? innermost?
  rw [above]
  cases calls with
  | nil =>
    -- what opens a scope is no call
    have opens := wrapped.opens
    obtain ⟨node, outer⟩ := scope
    cases node <;> first | rfl | cases opens
  | cons call calls =>
    obtain ⟨name, args, attached, loc, same, early⟩ := wrapped.wrappers call List.mem_cons_self
    obtain ⟨node, position⟩ := call
    obtain rfl : node = .call none name args attached loc := same
    exact if_pos early

/-- Where no call but the innermost is a marker, it is the last of all that gives anything. -/
theorem innermost?_of_lastGives {gives : Visibility}
    (outermost : LastGives (calledMarker? (markersOf definition.node)) calls gives)
    (silent : ∀ call ∈ calls.tail, calledMarker? (markersOf definition.node) call = none) :
    innermost? definition calls = some gives := by
  obtain ⟨inner, call, outer, rfl, marker, -⟩ := outermost
  cases inner with
  | nil => exact marker
  | cons first inner =>
    have unheard := silent call (by simp)
    rw [unheard] at marker
    cases marker

end WrappedIn

/-! ### The result -/

variable {tree : Node} {definition scope : Site} {calls : List (Node × Nat)}

/-- A definition inside of calls is as visible as the innermost of them says, if that is a marker;
otherwise the scope decides, whatever the calls further out are. So the outermost marker among the
calls prevails if there is no other than the innermost call. -/
theorem markedVisibility_of_wrapped (inside : definition ∈ (Site.root tree).walk)
    (wrapped : WrappedIn definition scope calls) :
    (∀ gives, markedVisibility definition = gives ↔
      innermost? definition calls = some gives ∨ innermost? definition calls = none ∧
        Prevails [Targeted definition scope, Imposed definition scope,
          Sectioned definition scope] gives) ∧
    ∀ gives, LastGives (calledMarker? (markersOf definition.node)) calls gives →
      (∀ call ∈ calls.tail, calledMarker? (markersOf definition.node) call = none) →
        markedVisibility definition = gives := by
  have found := wrapped.enclosingScope?
  have reading : ∀ gives, markedVisibility definition = gives ↔
      innermost? definition calls = some gives ∨ innermost? definition calls = none ∧
        Prevails [Targeted definition scope, Imposed definition scope,
          Sectioned definition scope] gives := by
    intro gives
    -- the ladder of options without its first step is the ladder of the scope
    rw [markedVisibility_of_scope found, wrapped.inlineMarker?_eq, getD_or_iff,
      prevails_cons (targeted_iff definition scope), prevails_cons (imposed_iff definition scope),
      prevails_cons (sectioned_iff inside found), getD_or_iff, getD_or_iff,
      ← Option.or_none (o := ite ..), getD_or_iff]
    simp [Prevails, eq_comm]
  refine ⟨reading, fun gives outermost silent => ?_⟩
  exact (reading gives).mpr (.inl (WrappedIn.innermost?_of_lastGives outermost silent))

/-! A class with a section that hides all, and in it a method with a marker inside of another
call. -/

def publicName : Node := .call none "public" [.methodDef "name" [] none] none none

def memoizedPublic : Node := .call none "memoize" [publicName] none none

def sectionClass : Node :=
  .classDef "User" none [.call none "private" [] none none, memoizedPublic] none

def sectionProgram : Node := .program [sectionClass] none

def sectionScope : Site := ⟨sectionClass, [(sectionProgram, 0)]⟩

def openedName : Site :=
  ⟨.methodDef "name" [] none, [(publicName, 0), (memoizedPublic, 0), (sectionClass, 1),
    (sectionProgram, 0)]⟩

theorem markedVisibility_of_wrapped_name :
    openedName ∈ (Site.root sectionProgram).walk ∧
      WrappedIn openedName sectionScope [(publicName, 0), (memoizedPublic, 0)] ∧
      LastGives (calledMarker? (markersOf openedName.node))
        [(publicName, 0), (memoizedPublic, 0)] .open ∧
      (∀ call ∈ [(memoizedPublic, 0)], calledMarker? (markersOf openedName.node) call = none) ∧
      markedVisibility openedName = .open := by
  have inside : openedName ∈ (Site.root sectionProgram).walk :=
    Site.mem_walk_root.mpr ⟨rfl, rfl, rfl, rfl, rfl⟩
  have wrapped : WrappedIn openedName sectionScope [(publicName, 0), (memoizedPublic, 0)] := by
    refine ⟨?_, rfl, 1, rfl⟩
    simp [IsWrapper, publicName, memoizedPublic]
  have outermost : LastGives (calledMarker? (markersOf openedName.node))
      [(publicName, 0), (memoizedPublic, 0)] .open :=
    ⟨[], (publicName, 0), [(memoizedPublic, 0)], rfl, rfl, by simp; rfl⟩
  have silent : ∀ call ∈ [(memoizedPublic, 0)],
      calledMarker? (markersOf openedName.node) call = none := by
    simp
    rfl
  exact ⟨inside, wrapped, outermost, silent,
    (markedVisibility_of_wrapped inside wrapped).2 .open outermost silent⟩

/-! The same with the marker around the other call. -/

def memoizedName : Node := .call none "memoize" [.methodDef "name" [] none] none none

def privateMemoized : Node := .call none "private" [memoizedName] none none

def memoClass : Node := .classDef "User" none [privateMemoized] none

def memoProgram : Node := .program [memoClass] none

def memoScope : Site := ⟨memoClass, [(memoProgram, 0)]⟩

def memoName : Site :=
  ⟨.methodDef "name" [] none, [(memoizedName, 0), (privateMemoized, 0), (memoClass, 0),
    (memoProgram, 0)]⟩

/-- The outermost marker does not prevail. -/
theorem outer_marker_is_unheard :
    memoName ∈ (Site.root memoProgram).walk ∧ memoName.node.isRoutine = true ∧
      WrappedIn memoName memoScope [(memoizedName, 0), (privateMemoized, 0)] ∧
      LastGives (calledMarker? (markersOf memoName.node))
        [(memoizedName, 0), (privateMemoized, 0)] .hidden ∧
      markedVisibility memoName ≠ .hidden := by
  have inside : memoName ∈ (Site.root memoProgram).walk :=
    Site.mem_walk_root.mpr ⟨rfl, rfl, rfl, rfl, rfl⟩
  have wrapped : WrappedIn memoName memoScope [(memoizedName, 0), (privateMemoized, 0)] := by
    refine ⟨?_, rfl, 0, rfl⟩
    simp [IsWrapper, memoizedName, privateMemoized]
  have outermost : LastGives (calledMarker? (markersOf memoName.node))
      [(memoizedName, 0), (privateMemoized, 0)] .hidden :=
    ⟨[(memoizedName, 0)], (privateMemoized, 0), [], rfl, rfl, by simp⟩
  exact ⟨inside, rfl, wrapped, outermost, by decide⟩

end SpecLint.Routine
