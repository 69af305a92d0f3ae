import SpecLint.Proofs.Code.Insertion
import SpecLint.Proofs.Routine.Precedence
import Mathlib.Logic.Relation

/-!
# Two namespaces of markers

Methods of instances answer to `public`, `private` and `protected`, methods of the type to
`public_class_method` and `private_class_method`. A statement with a marker of the one namespace
that is put into a file, or taken out of it, leaves the methods of the other as they are. There is
one exception. What a unit says with a class marker is heard in every `class << target` that stands
in it, whatever the target, while the methods there belong to the type only if the target is `self`.

## Main result

`markedVisibility_of_other_namespace`: however many statements of the other namespace are put in and
taken out, a method stays as visible as it was, unless one of them is aimed at a method in the class
of another object.
-/
namespace SpecLint

open SpecLint.Code

/-! ### The last to say anything -/

section
variable {α β : Type}

/-- Among statements with one more, the last to say anything is the same or the new one. -/
theorem last_insertIdx (gives? : α → Option β) (items : List α) (index : Nat) (item : α) :
    (items.insertIdx index item).reverse.findSome? gives? = items.reverse.findSome? gives? ∨
      (gives? item).isSome = true ∧
        (items.insertIdx index item).reverse.findSome? gives? = gives? item := by
  induction items generalizing index with
  | nil =>
    cases index with
    | zero => cases said : gives? item <;> simp [said]
    | succ index => exact .inl rfl
  | cons first items ih =>
    cases index with
    | zero =>
      rw [List.insertIdx_zero, List.reverse_cons, List.findSome?_append]
      cases (first :: items).reverse.findSome? gives? with
      | some found => exact .inl rfl
      | none => cases said : gives? item <;> simp [said]
    | succ index =>
      rw [List.insertIdx_succ_cons, List.reverse_cons, List.reverse_cons, List.findSome?_append,
        List.findSome?_append]
      rcases ih index with same | ⟨speaks, given⟩
      · exact .inl (by rw [same])
      · refine .inr ⟨speaks, ?_⟩
        obtain ⟨found, said⟩ := Option.isSome_iff_exists.mp speaks
        rw [given, said]
        rfl

theorem last_insertIdx_of_silent {gives? : α → Option β} {item : α} (silent : gives? item = none)
    (items : List α) (index : Nat) :
    (items.insertIdx index item).reverse.findSome? gives? = items.reverse.findSome? gives? := by
  rcases last_insertIdx gives? items index item with same | ⟨speaks, -⟩
  · exact same
  · simp [silent] at speaks

theorem last_eq_of_map_eq {gives? : α → Option β} {items others : List α}
    (same : others.map gives? = items.map gives?) :
    others.reverse.findSome? gives? = items.reverse.findSome? gives? := by
  have reading (items : List α) : items.reverse.findSome? gives? =
      (items.map gives?).reverse.findSome? id := by
    rw [← List.map_reverse, List.findSome?_map]
    rfl
  rw [reading, reading, same]

/-- What stands before a place and the new item are what stands before the place it moves to. -/
theorem take_moved (items : List α) (index count : Nat) (item : α) :
    (items.insertIdx index item).take (Node.moved index count) =
      (items.take count).insertIdx index item := by
  induction index generalizing items count with
  | zero => simp [Node.moved]
  | succ index ih =>
    cases items with
    | nil => simp
    | cons first items =>
      cases count with
      | zero => simp [Node.moved]
      | succ count =>
        have onward : Node.moved (index + 1) (count + 1) = Node.moved index count + 1 := by
          unfold Node.moved
          split <;> split <;> omega
        rw [onward, List.insertIdx_succ_cons, List.take_succ_cons, ih, List.take_succ_cons,
          List.insertIdx_succ_cons]

theorem map_modify_of_eq {read : α → β} {change : α → α}
    (same : ∀ item, read (change item) = read item) (items : List α) (position : Nat) :
    (items.modify position change).map read = items.map read := by
  refine List.ext_getElem? fun index => ?_
  rw [List.getElem?_map, List.getElem?_map, List.getElem?_modify]
  cases items[index]? with
  | none => rfl
  | some item =>
    simp only [Option.map_some, Option.map_eq_map]
    split <;> simp [same]

end

/-! ### Statements with a part changed -/

section
variable {statement : Node} {index : Nat}

theorem literal?_modifyAt (statement : Node) (index : Nat) (place : List Nat) (node : Node) :
    (node.modifyAt (·.withStatement statement index) place).literal? = node.literal? :=
  Node.head_modifyAt Node.literal? (fun node => by cases node <;> rfl)
    (fun node items _ => by cases node <;> rfl) place node

/-- An insertion inside of a marker leaves it a marker with the same names. -/
theorem ofNode?_modifyAt (markers : Scope) (place : List Nat) (node : Node) :
    Marker.ofNode? markers (node.modifyAt (·.withStatement statement index) place) =
        Marker.ofNode? markers node ∨
      ∃ gives args others, Marker.ofNode? markers node = some ⟨gives, args⟩ ∧
        Marker.ofNode? markers (node.modifyAt (·.withStatement statement index) place) =
          some ⟨gives, others⟩ ∧ others.map Node.literal? = args.map Node.literal? := by
  cases place with
  | nil => cases node <;> exact .inl rfl
  | cons position rest =>
    cases node with
    | call receiver name args attached loc =>
      cases receiver with
      | some receiver => exact .inl rfl
      | none =>
        cases attached with
        | some attached => exact .inl rfl
        | none =>
          -- the arguments are the children, and one of them is another one
          have changed : (Node.call none name args none loc).modifyAt
              (·.withStatement statement index) (position :: rest) =
                .call none name (args.modify position
                  (Node.modifyAt (·.withStatement statement index) rest)) none loc := by
            simp only [Node.modifyAt, Node.children, Node.withChildren, Node.refill,
              Option.toList_none, List.nil_append, List.append_nil, Option.map_none,
              List.length_nil, List.drop_zero]
            rw [List.take_of_length_le (by simp)]
          rw [changed]
          cases given : markers.marker? name with
          | none => simp [Marker.ofNode?, given]
          | some gives =>
            have literals := map_modify_of_eq (literal?_modifyAt statement index rest) args position
            refine .inr ⟨gives, args, _, by simp [Marker.ofNode?, given], ?_, literals⟩
            simp [Marker.ofNode?, given]
    | _ => exact .inl rfl

theorem aimsAt?_modifyAt (markers : Scope) (name : String) (place : List Nat) (node : Node) :
    aimsAt? markers name (node.modifyAt (·.withStatement statement index) place) =
      aimsAt? markers name node := by
  unfold aimsAt?
  rcases ofNode?_modifyAt markers place node with same | ⟨gives, args, others, here, there, same⟩
  · rw [same]
  · have names : (⟨gives, others⟩ : Marker).names = (⟨gives, args⟩ : Marker).names := by
      have reading (args : List Node) : args.filterMap Node.literal? =
          (args.map Node.literal?).filterMap id := by
        rw [List.filterMap_map]
        rfl
      rw [Marker.names, Marker.names, reading others, reading args, same]
    rw [here, there, Option.bind_some, Option.bind_some, names]

theorem opensSection?_modifyAt (markers : Scope) (place : List Nat) (node : Node) :
    opensSection? markers (node.modifyAt (·.withStatement statement index) place) =
      opensSection? markers node := by
  unfold opensSection?
  rcases ofNode?_modifyAt markers place node with same | ⟨gives, args, others, here, there, same⟩
  · rw [same]
  · have lengths : others.length = args.length := by simpa using congrArg List.length same
    have empty : others.isEmpty = args.isEmpty := by
      cases args <;> cases others <;> simp_all
    rw [here, there, Option.bind_some, Option.bind_some, empty]

end

namespace Routine

variable {insertion : Insertion} {before after : Site}

/-! ### Kinds of sites -/

theorem isUnit_moves (moves : insertion.Moves before after) :
    after.node.isUnit = before.node.isUnit :=
  moves.head Node.isUnit (fun node => by cases node <;> rfl)
    (fun node _ _ => by cases node <;> rfl)

theorem declaredName_moves (moves : insertion.Moves before after) :
    after.node.declaredName = before.node.declaredName :=
  moves.head Node.declaredName (fun node => by cases node <;> rfl)
    (fun node _ _ => by cases node <;> rfl)

theorem markersOf_moves (moves : insertion.Moves before after) :
    markersOf after.node = markersOf before.node :=
  moves.head markersOf (fun node => by cases node <;> rfl) (fun node _ _ => by cases node <;> rfl)

theorem isGrouping_moves (moves : insertion.Moves before after) :
    isGrouping after.node = isGrouping before.node :=
  moves.head isGrouping (fun node => by cases node <;> rfl) (fun node _ _ => by cases node <;> rfl)

theorem bodyOffset_moves (moves : insertion.Moves before after) :
    after.node.bodyOffset = before.node.bodyOffset :=
  moves.head Node.bodyOffset (fun node => by cases node <;> rfl)
    (fun node items _ => by
      cases node with
      | classDef name superclass body loc => exact Node.length_toList_refill superclass items
      | _ => rfl)

def isSelf : Node → Bool
  | .selfRef _ => true
  | _ => false

/-- What stands behind `class <<`. -/
def target? : Node → Option Node
  | .singletonClass target _ _ => some target
  | _ => none

theorem isSelfClass_eq (node : Node) : node.isSelfClass = (target? node).any isSelf := by
  cases node with
  | singletonClass target body loc => cases target <;> rfl
  | _ => rfl

/-- The class of `self` remains one, and no other becomes one. -/
theorem isSelfClass_moves (moves : insertion.Moves before after) :
    after.node.isSelfClass = before.node.isSelfClass := by
  rcases moves.node with ⟨rest, -, same⟩ | ⟨-, same⟩
  · rw [same, isSelfClass_eq, isSelfClass_eq]
    cases before.node with
    | singletonClass target body loc =>
      -- the target is a child like the statements, the first one
      cases rest with
      | nil => rfl
      | cons position rest =>
        cases position with
        | zero =>
          exact Node.head_modifyAt isSelf (fun node => by cases node <;> rfl)
            (fun node _ _ => by cases node <;> rfl) rest target
        | succ position => rfl
    | _ => cases rest <;> rfl
  · rw [same]

/-- The name of a call, with or without a receiver. -/
def calledName? : Node → Option String
  | .call _ name _ _ _ => some name
  | _ => none

def isBlockNode : Node → Bool
  | .block .. => true
  | _ => false

theorem isTypeBlock_eq (site : Site) : isTypeBlock site =
    (isBlockNode site.node && site.parent?.any fun parent =>
      calledName? parent.node == some groupingCall) := by
  obtain ⟨node, above⟩ := site
  unfold isTypeBlock isBlockNode Site.parent? calledName?
  cases node <;> try rfl
  cases above with
  | nil => rfl
  | cons frame outer =>
    obtain ⟨parent, position⟩ := frame
    cases parent <;> simp

theorem isTypeBlock_moves (moves : insertion.Moves before after) :
    isTypeBlock after = isTypeBlock before := by
  have block : isBlockNode after.node = isBlockNode before.node :=
    moves.head isBlockNode (fun node => by cases node <;> rfl)
      fun node _ _ => by cases node <;> rfl
  rw [isTypeBlock_eq, isTypeBlock_eq, block]
  rcases moves.parent with ⟨top, top'⟩ | ⟨parent, parent', found, found', up⟩
  · rw [top, top']
  · have called : calledName? parent'.node = calledName? parent.node :=
      up.head calledName? (fun node => by cases node <;> rfl)
        (fun node _ _ => by cases node <;> rfl)
    rw [found, found', Option.any_some, Option.any_some, called]

/-- The constructs that open a scope wherever they stand. -/
def alwaysOpensScope : Node → Bool
  | .classDef .. | .moduleDef .. | .singletonClass .. | .program .. => true
  | _ => false

theorem opensScope_eq (site : Site) :
    opensScope site = (alwaysOpensScope site.node || isTypeBlock site) := by
  obtain ⟨node, above⟩ := site
  cases node <;> rfl

theorem opensScope_moves (moves : insertion.Moves before after) :
    opensScope after = opensScope before := by
  rw [opensScope_eq, opensScope_eq, isTypeBlock_moves moves,
    moves.head alwaysOpensScope (fun node => by cases node <;> rfl)
      (fun node _ _ => by cases node <;> rfl)]

/-! ### The scope of a method -/

/-- What decides whether a method belongs to the type. -/
def decidesScope (site : Site) : Bool :=
  site.node.isUnit || site.node.isSelfClass || isTypeBlock site

theorem inTypeGrouping_eq (sites : List Site) :
    inTypeGrouping sites = (sites.find? decidesScope).any fun site => !site.node.isUnit := by
  unfold inTypeGrouping
  rw [show (fun site : Site => site.node.isUnit || site.node.isSelfClass || isTypeBlock site) =
    decidesScope from rfl]
  cases sites.find? decidesScope <;> rfl

theorem scopeOf_eq (site : Site) : scopeOf site =
    if markersOf site.node = .ofType ∨ inTypeGrouping site.ancestors = true then .ofType
    else .ofInstance := by
  obtain ⟨node, above⟩ := site
  unfold scopeOf markersOf
  cases node <;> simp

/-- A method belongs to instances or to the type as before. -/
theorem scopeOf_moves (moves : insertion.Moves before after) : scopeOf after = scopeOf before := by
  have grouping : inTypeGrouping after.ancestors = inTypeGrouping before.ancestors := by
    rw [inTypeGrouping_eq, inTypeGrouping_eq]
    have kept (before after : Site) (moves : insertion.Moves before after) :
        decidesScope after = decidesScope before := by
      rw [decidesScope, decidesScope, isUnit_moves moves, isSelfClass_moves moves,
        isTypeBlock_moves moves]
    rcases moves.nearest kept with ⟨none, none'⟩ | ⟨_, _, _, _, _, _, found, found', up, -⟩
    · rw [none, none']
    · rw [found, found', Option.any_some, Option.any_some, isUnit_moves up]
  rw [scopeOf_eq, scopeOf_eq, grouping, markersOf_moves moves]

/-- If the scope around a method decides where it belongs, the method belongs to the type unless
the scope is a unit. -/
theorem inTypeGrouping_of_decidesScope {definition scope : Site}
    (found : enclosingScope? definition = some scope) (decides : decidesScope scope = true) :
    inTypeGrouping definition.ancestors = !scope.node.isUnit := by
  -- whatever decides opens a scope, so nothing decides before the scope
  have opens (site : Site) (decides : decidesScope site = true) : opensScope site = true := by
    obtain ⟨node, above⟩ := site
    rw [opensScope_eq]
    cases node <;> simp_all [decidesScope, alwaysOpensScope, Node.isUnit, Node.isSelfClass]
  have first : definition.ancestors.find? decidesScope = some scope := by
    rw [enclosingScope?, List.find?_eq_some_iff_append] at found
    obtain ⟨-, inner, outer, split, closed⟩ := found
    refine List.find?_eq_some_iff_append.mpr ⟨decides, inner, outer, split, fun site member => ?_⟩
    have shut := closed site member
    cases here : decidesScope site with
    | false => rfl
    | true => simp [opens site here] at shut
  rw [inTypeGrouping_eq, first, Option.any_some]

/-! ### What statements say after an insertion -/

/-- A reading of statements that no insertion inside of them changes. -/
def Settled (insertion : Insertion) (gives? : Node → Option Visibility) : Prop :=
  ∀ place node,
    gives? (node.modifyAt (·.withStatement insertion.statement insertion.index) place) = gives? node

theorem settled_aimsAt? (markers : Scope) (name : String) :
    Settled insertion (aimsAt? markers name) := aimsAt?_modifyAt markers name

theorem settled_opensSection? (markers : Scope) : Settled insertion (opensSection? markers) :=
  opensSection?_modifyAt markers

variable {scope scope' : Site} {gives? : Node → Option Visibility}

theorem holdsBody_moves (moves : insertion.Moves scope scope')
    (holds : Site.HoldsBody scope.node) : Site.HoldsBody scope'.node := by
  have same : Site.HoldsBody scope'.node = Site.HoldsBody scope.node :=
    moves.head Site.HoldsBody (fun node => by cases node <;> rfl)
      (fun node _ _ => by cases node <;> rfl)
  exact same ▸ holds

/-- A holder with a body has one more statement there. -/
theorem body_holder (moves : insertion.Moves insertion.holder scope')
    (holds : Site.HoldsBody insertion.holder.node) :
    scope'.node.body =
        insertion.holder.node.body.insertIdx insertion.index insertion.statement ∧
      insertion.start = insertion.holder.node.bodyOffset := by
  have start := insertion.holds
  rw [moves.node_holder]
  cases node : insertion.holder.node <;> rw [node] at holds start <;> first
    | exact holds.elim
    | exact ⟨rfl, (Option.some.inj start).symm⟩

/-- The statements of another scope say what they said. -/
theorem map_body_of_ne (moves : insertion.Moves scope scope') (elsewhere : scope ≠ insertion.holder)
    (holds : Site.HoldsBody scope.node) (settled : Settled insertion gives?) :
    scope'.node.body.map gives? = scope.node.body.map gives? := by
  rw [Site.body_eq_drop holds, Site.body_eq_drop (holdsBody_moves moves holds),
    bodyOffset_moves moves]
  rcases moves.node_of_ne elsewhere with ⟨position, rest, same⟩ | same
  · rw [same, Node.children_modifyAt, List.map_drop, List.map_drop,
      map_modify_of_eq (settled rest)]
  · rw [same]

/-- The last of the statements to say anything says what was said, or is the new one. -/
theorem last_body_cases (moves : insertion.Moves scope scope') (holds : Site.HoldsBody scope.node)
    (settled : Settled insertion gives?) :
    scope'.node.body.reverse.findSome? gives? = scope.node.body.reverse.findSome? gives? ∨
      scope = insertion.holder ∧ (gives? insertion.statement).isSome = true ∧
        scope'.node.body.reverse.findSome? gives? = gives? insertion.statement := by
  by_cases here : scope = insertion.holder
  · subst here
    rw [(body_holder moves holds).1]
    rcases last_insertIdx gives? insertion.holder.node.body insertion.index insertion.statement with
      same | ⟨speaks, given⟩
    · exact .inl same
    · exact .inr ⟨rfl, speaks, given⟩
  · exact .inl (last_eq_of_map_eq (map_body_of_ne moves here holds settled))

theorem last_body (moves : insertion.Moves scope scope') (holds : Site.HoldsBody scope.node)
    (settled : Settled insertion gives?)
    (silent : scope = insertion.holder → gives? insertion.statement = none) :
    scope'.node.body.reverse.findSome? gives? = scope.node.body.reverse.findSome? gives? := by
  rcases last_body_cases moves holds settled with same | ⟨here, speaks, -⟩
  · exact same
  · simp [silent here] at speaks

/-! ### The statements before a method -/

theorem takeWhile_zipIdx {α : Type} (items : List α) (start stop : Nat) :
    ((items.zipIdx start).takeWhile fun entry => entry.2 != stop).map (·.1) =
      if start ≤ stop then items.take (stop - start) else items := by
  induction items generalizing start with
  | nil => simp
  | cons item items ih =>
    rw [List.zipIdx_cons, List.takeWhile_cons]
    by_cases here : start = stop
    · simp [here]
    · have onward : (start != stop) = true := by simp [here]
      simp only [onward, if_true, List.map_cons, ih]
      by_cases before : start ≤ stop
      · have less : stop - start = stop - (start + 1) + 1 := by omega
        rw [if_pos before, if_pos (by omega), less, List.take_succ_cons]
      · rw [if_neg before, if_neg (by omega)]

/-- The statements before a site are those before its place, unless it stands in the header. -/
theorem map_node_upTo {site scope : Site} {inner : List (Node × Nat)} {position : Nat}
    (frames : site.above = inner ++ (scope.node, position) :: scope.above)
    (holds : Site.HoldsBody scope.node) :
    (VisibilityState.upTo (statementIn? scope site) scope.statements).map (·.node) =
      if scope.node.bodyOffset ≤ position then
        scope.node.body.take (position - scope.node.bodyOffset)
      else scope.node.body := by
  obtain ⟨stop, found, path⟩ := statementIn?_path frames
  have placed : scope.statements =
      (scope.node.body.zipIdx scope.node.bodyOffset).map fun entry =>
        ⟨entry.1, (scope.node, entry.2) :: scope.above⟩ := by
    have later : scope.node.body.zipIdx scope.node.bodyOffset =
        scope.node.body.zipIdx.map fun entry => (entry.1, scope.node.bodyOffset + entry.2) :=
      List.zipIdx_eq_map_add
    rw [Site.statements, Site.bodySite_eq holds, later, List.map_map]
    simp only [Function.comp_def, Nat.add_comm]
  -- a statement is the one looked for if it has its position
  have reads (entry : Node × Nat) :
      (!(⟨entry.1, (scope.node, entry.2) :: scope.above⟩ : Site).same stop) =
        (entry.2 != position) := by
    rw [Site.same, path]
    simp [Site.path, bne]
  rw [found, VisibilityState.upTo, placed, List.takeWhile_map, List.map_map, ← takeWhile_zipIdx]
  simp only [Function.comp_def, reads]

/-- The sections before a method say what they said, if the new statement starts none. -/
theorem last_upTo (moves : insertion.Moves scope scope') (holds : Site.HoldsBody scope.node)
    (settled : Settled insertion gives?)
    (silent : scope = insertion.holder → gives? insertion.statement = none)
    {inner inner' : List (Node × Nat)} {position position' : Nat}
    (frames : before.above = inner ++ (scope.node, position) :: scope.above)
    (frames' : after.above = inner' ++ (scope'.node, position') :: scope'.above)
    (place : insertion.holder = scope ∧
        position' = Node.moved (insertion.start + insertion.index) position ∨
      insertion.holder ≠ scope ∧ position' = position) :
    ((VisibilityState.upTo (statementIn? scope' after) scope'.statements).map
        (·.node)).reverse.findSome? gives? =
      ((VisibilityState.upTo (statementIn? scope before) scope.statements).map
        (·.node)).reverse.findSome? gives? := by
  rw [map_node_upTo frames holds, map_node_upTo frames' (holdsBody_moves moves holds),
    bodyOffset_moves moves]
  rcases place with ⟨rfl, rfl⟩ | ⟨elsewhere, rfl⟩
  · obtain ⟨body, start⟩ := body_holder moves holds
    rw [body, start]
    by_cases inBody : insertion.holder.node.bodyOffset ≤ position
    · -- counted from the first statement
      have counted : Node.moved (insertion.holder.node.bodyOffset + insertion.index) position -
          insertion.holder.node.bodyOffset =
            Node.moved insertion.index (position - insertion.holder.node.bodyOffset) := by
        unfold Node.moved
        split <;> split <;> omega
      have still : insertion.holder.node.bodyOffset ≤
          Node.moved (insertion.holder.node.bodyOffset + insertion.index) position := by
        unfold Node.moved
        split <;> omega
      rw [if_pos inBody, if_pos still, counted, take_moved,
        last_insertIdx_of_silent (silent rfl)]
    · have still : ¬insertion.holder.node.bodyOffset ≤
          Node.moved (insertion.holder.node.bodyOffset + insertion.index) position := by
        unfold Node.moved
        split <;> omega
      rw [if_neg inBody, if_neg still, last_insertIdx_of_silent (silent rfl)]
  · have same := map_body_of_ne moves (Ne.symm elsewhere) holds settled
    refine last_eq_of_map_eq ?_
    split
    · rw [List.map_take, List.map_take, same]
    · exact same

/-! ### The levels after an insertion -/

/-- The name and the number of arguments of a call without receiver. -/
def bareCall? : Node → Option (String × Nat)
  | .call none name args _ _ => some (name, args.length)
  | _ => none

theorem inlineMarker?_eq (markers : Scope) (site : Site) : inlineMarker? markers site =
    site.above.head?.bind fun frame => (bareCall? frame.1).bind fun call =>
      if frame.2 < call.2 then markers.marker? call.1 else none := by
  obtain ⟨node, above⟩ := site
  unfold inlineMarker?
  cases above with
  | nil => rfl
  | cons frame outer =>
    obtain ⟨parent, position⟩ := frame
    cases parent with
    | call receiver name args attached loc => cases receiver <;> rfl
    | _ => rfl

/-- A marker around a definition stays around it. -/
theorem inlineMarker?_moves (moves : insertion.Moves before after) (markers : Scope) :
    inlineMarker? markers after = inlineMarker? markers before := by
  rw [inlineMarker?_eq, inlineMarker?_eq]
  cases frames : before.above with
  | nil => rw [moves.above_nil frames]
  | cons frame outer =>
    obtain ⟨parent, position⟩ := frame
    obtain ⟨parent', position', outer', frames', up, place⟩ := moves.up frames
    have called : bareCall? parent' = bareCall? parent :=
      up.head bareCall? (fun node => by cases node <;> rfl) (fun node items size => by
        cases node with
        | call receiver name args attached loc =>
          cases receiver with
          | some receiver => rfl
          | none =>
            simp only [Node.children, Option.toList_none, List.nil_append, List.length_append]
              at size
            simp only [Node.withChildren, Node.refill, Option.map_none, bareCall?,
              Option.toList_none, List.length_nil, List.drop_zero, List.length_take]
            rw [Nat.min_eq_left (by omega)]
        | _ => rfl)
    rw [frames', List.head?_cons, List.head?_cons, Option.bind_some, Option.bind_some, called]
    rcases place with ⟨here, -⟩ | ⟨-, same⟩
    · -- a call holds no statements
      have holds := insertion.holds
      rw [here] at holds
      cases parent <;> first | rfl | cases holds
    · rw [same]

theorem lookup_outerOverrides (scope : Site) (name : String) :
    (outerOverrides scope).lookup name =
      if isGrouping scope.node then
        (CodeUnit.enclosing? scope).bind fun declaration =>
          declaration.node.body.reverse.findSome? (aimsAt? .ofType name)
      else none := by
  unfold outerOverrides
  split
  next =>
    cases CodeUnit.enclosing? scope with
    | none => rfl
    | some declaration =>
      simp [VisibilityState.lookup_collectOverrides, VisibilityState.start]
  next => rfl

/-- What the unit imposes on a grouping is the same, or what the new statement gives. -/
theorem lookup_outerOverrides_moves (moves : insertion.Moves scope scope') (name : String) :
    (outerOverrides scope').lookup name = (outerOverrides scope).lookup name ∨
      isGrouping scope.node = true ∧ CodeUnit.enclosing? scope = some insertion.holder ∧
        ∃ gives, aimsAt? .ofType name insertion.statement = some gives ∧
          (outerOverrides scope').lookup name = some gives := by
  rw [lookup_outerOverrides, lookup_outerOverrides, isGrouping_moves moves]
  cases grouping : isGrouping scope.node with
  | false => exact .inl rfl
  | true =>
    have units (before after : Site) (moves : insertion.Moves before after) :
        after.node.isUnit = before.node.isUnit := isUnit_moves moves
    simp only [if_true, CodeUnit.enclosing?]
    rcases moves.nearest units with ⟨none, none'⟩ | ⟨_, _, _, _, _, _, found, found', up, -⟩
    · exact .inl (by rw [none, none'])
    · have isUnit := @List.find?_some _ (fun site : Site => site.node.isUnit) _ _ found
      rw [found, found', Option.bind_some, Option.bind_some]
      rcases last_body_cases up (holdsBody_of_isUnit isUnit) (settled_aimsAt? .ofType name) with
        same | ⟨here, speaks, given⟩
      · exact .inl same
      · obtain ⟨gives, said⟩ := Option.isSome_iff_exists.mp speaks
        exact .inr ⟨trivial, by rw [here], gives, said, given.trans said⟩

/-- If the new statement is no marker of a method in the scope of the method, it can only be heard
from outside of a grouping, and then it decides. -/
theorem markedVisibility_moves (moves : insertion.Moves before after)
    (silent : enclosingScope? before = some insertion.holder →
      Marker.ofNode? (markersOf before.node) insertion.statement = none) :
    markedVisibility after = markedVisibility before ∨
      ∃ scope, enclosingScope? before = some scope ∧ isGrouping scope.node = true ∧
        CodeUnit.enclosing? scope = some insertion.holder ∧
        aimsAt? .ofType before.node.declaredName insertion.statement =
          some (markedVisibility after) := by
  have opens (before after : Site) (moves : insertion.Moves before after) :
      opensScope after = opensScope before := opensScope_moves moves
  rcases moves.nearest opens with
    ⟨missing, missing'⟩ | ⟨scope, scope', inner, position, inner', position', found, found', up,
      frames, frames', place⟩
  · have missing : enclosingScope? before = none := missing
    have missing' : enclosingScope? after = none := missing'
    exact .inl (by rw [markedVisibility, markedVisibility, missing, missing'])
  · have holds := holdsBody_of_opensScope (List.find?_some found)
    have unmarked (here : scope = insertion.holder) :
        Marker.ofNode? (markersOf before.node) insertion.statement = none :=
      silent (here ▸ found)
    -- a marker around the definition and the markers of its scope say what they said
    have inline := inlineMarker?_moves moves (markersOf before.node)
    have targeted := last_body up holds
      (settled_aimsAt? (markersOf before.node) before.node.declaredName)
      (fun here => by rw [aimsAt?, unmarked here]; rfl)
    rw [markedVisibility_of_scope found, markedVisibility_of_scope found', markersOf_moves moves,
      declaredName_moves moves, inline, targeted]
    have sectioned : (if markersOf before.node = .ofInstance then
          ((VisibilityState.upTo (statementIn? scope' after) scope'.statements).map
            (·.node)).reverse.findSome? (opensSection? .ofInstance)
        else none) =
        if markersOf before.node = .ofInstance then
          ((VisibilityState.upTo (statementIn? scope before) scope.statements).map
            (·.node)).reverse.findSome? (opensSection? .ofInstance)
        else none := by
      split
      next ofInstance =>
        exact last_upTo up holds (settled_opensSection? .ofInstance)
          (fun here => by
            rw [opensSection?, MarkerTable.ofInstance, ← ofInstance, unmarked here]
            rfl) frames frames' place
      next => rfl
    rw [sectioned]
    rcases lookup_outerOverrides_moves up before.node.declaredName with
      same | ⟨grouping, holder, gives, said, given⟩
    · exact .inl (by rw [same])
    · -- the stronger levels decide as before, and where they do not the new statement does
      cases inlineMarker? (markersOf before.node) before with
      | some stronger => exact .inl rfl
      | none =>
        cases scope.node.body.reverse.findSome?
            (aimsAt? (markersOf before.node) before.node.declaredName) with
        | some stronger => exact .inl rfl
        | none =>
          refine .inr ⟨scope, found, grouping, holder, ?_⟩
          rw [given, said]
          rfl

/-! ### Statements of the other namespace -/

/-- A statement that calls a marker of a namespace, with or without names. -/
def IsMarkerOf (markers : Scope) (statement : Node) : Prop :=
  ∃ receiver name args attached loc, statement = .call receiver name args attached loc ∧
    (markers.marker? name).isSome = true

/-- No word is a marker in both namespaces. -/
theorem marker?_of_opposite (markers : Scope) {name : String}
    (isMarker : (markers.opposite.marker? name).isSome = true) : markers.marker? name = none := by
  have known : name ∈ ["public", "private", "protected", "public_class_method",
      "private_class_method"] := by
    by_contra unknown
    have unmarked : markers.opposite.marker? name = none := by
      simp only [List.mem_cons, List.not_mem_nil, or_false, not_or] at unknown
      cases markers <;> simp [Scope.opposite, Scope.marker?, List.lookup_eq_none_iff, unknown]
    simp [unmarked] at isMarker
  simp only [List.mem_cons, List.not_mem_nil, or_false] at known
  -- each of the five words is looked up in both tables
  rcases known with rfl | rfl | rfl | rfl | rfl <;> cases markers <;>
    first | rfl | exact absurd isMarker (by decide)

theorem ofNode?_of_opposite (markers : Scope) {statement : Node}
    (isMarker : IsMarkerOf markers.opposite statement) :
    Marker.ofNode? markers statement = none := by
  obtain ⟨receiver, name, args, attached, loc, rfl, known⟩ := isMarker
  cases receiver with
  | some receiver => rfl
  | none =>
    cases attached with
    | some attached => rfl
    | none => simp [Marker.ofNode?, marker?_of_opposite markers known]

/-- A class marker in the body of a unit is aimed at the name of a method in a `class << target` of
the unit, where the target is not `self`. -/
def Overheard (insertion : Insertion) (definition : Site) : Prop :=
  ∃ scope target body loc, enclosingScope? definition = some scope ∧
    scope.node = .singletonClass target body loc ∧ scope.node.isSelfClass = false ∧
    CodeUnit.enclosing? scope = some insertion.holder ∧
    (aimsAt? .ofType definition.node.declaredName insertion.statement).isSome = true

theorem isUnit_of_isGrouping {node : Node} (grouping : isGrouping node = true) :
    node.isUnit = false := by
  cases node <;> first | rfl | cases grouping

/-- A class marker leaves a method of instances as it is, unless it is overheard and decides. -/
theorem markedVisibility_of_type_marker (moves : insertion.Moves before after)
    (isMarker : IsMarkerOf .ofType insertion.statement)
    (ofInstance : scopeOf before = .ofInstance) :
    markedVisibility after = markedVisibility before ∨
      Overheard insertion before ∧
        aimsAt? .ofType before.node.declaredName insertion.statement =
          some (markedVisibility after) := by
  have unmarked := ofNode?_of_opposite .ofInstance isMarker
  -- a method of instances names no receiver and stands in no grouping of its unit
  rw [scopeOf_eq, ite_eq_right_iff] at ofInstance
  have answers : markersOf before.node = .ofInstance := by
    cases markers : markersOf before.node with
    | ofInstance => rfl
    | ofType => exact absurd (ofInstance (.inl markers)) (by decide)
  have ungrouped : inTypeGrouping before.ancestors = false := by
    cases grouped : inTypeGrouping before.ancestors with
    | false => rfl
    | true => exact absurd (ofInstance (.inr grouped)) (by decide)
  rcases markedVisibility_moves moves fun _ => by rw [answers, unmarked] with
    same | ⟨scope, found, grouping, holder, given⟩
  · exact .inl same
  · refine .inr ⟨⟨scope, ?_⟩, given⟩
    have undecided : decidesScope scope = false := by
      cases decides : decidesScope scope with
      | false => rfl
      | true =>
        have isUnit := inTypeGrouping_of_decidesScope found decides
        rw [ungrouped, isUnit_of_isGrouping grouping] at isUnit
        cases isUnit
    simp only [decidesScope, Bool.or_eq_false_iff] at undecided
    obtain ⟨⟨-, other⟩, noTypeBlock⟩ := undecided
    -- what opens a scope and is no block of the type is the class of an object
    have opens := List.find?_some found
    rw [opensScope_eq, noTypeBlock, Bool.or_false] at opens
    obtain ⟨node, above⟩ := scope
    cases node with
    | singletonClass target body loc =>
      exact ⟨target, body, loc, found, rfl, other, holder, by rw [given]; rfl⟩
    | block => cases opens
    | _ => cases grouping

/-- In the unit of a method of the type, what instances answer to is not heard. -/
theorem markedVisibility_of_instance_marker (moves : insertion.Moves before after)
    (isMarker : IsMarkerOf .ofInstance insertion.statement)
    (inUnit : CodeUnit.enclosing? before = some insertion.holder)
    (ofType : scopeOf before = .ofType) : markedVisibility after = markedVisibility before := by
  have unmarked := ofNode?_of_opposite .ofType isMarker
  have unheard : enclosingScope? before = some insertion.holder →
      Marker.ofNode? (markersOf before.node) insertion.statement = none := by
    intro found
    cases markers : markersOf before.node with
    | ofType => exact unmarked
    | ofInstance =>
      -- a method that names no receiver belongs to the type only inside of a grouping
      have isUnit := @List.find?_some _ (fun site : Site => site.node.isUnit) _ _ inUnit
      have decides : decidesScope insertion.holder = true := by simp [decidesScope, isUnit]
      have ungrouped := inTypeGrouping_of_decidesScope found decides
      rw [scopeOf_eq, markers, ungrouped, isUnit] at ofType
      cases ofType
  rcases markedVisibility_moves moves unheard with same | ⟨scope, -, -, -, given⟩
  · exact same
  · simp [aimsAt?, unmarked] at given

/-- A class marker comes in that is not overheard. -/
def TypeMarkerComes (before after : Site) : Prop :=
  ∃ insertion : Insertion, insertion.Moves before after ∧
    IsMarkerOf .ofType insertion.statement ∧ ¬Overheard insertion before

/-- A marker for instances comes into the body of the unit. -/
def InstanceMarkerComes (before after : Site) : Prop :=
  ∃ insertion : Insertion, insertion.Moves before after ∧
    IsMarkerOf .ofInstance insertion.statement ∧
    CodeUnit.enclosing? before = some insertion.holder

/-- What changes of a kind, made and undone in any order, keep, if each of them keeps it. -/
theorem kept_of_eqvGen {comes : Site → Site → Prop} (scope : Scope)
    (step : ∀ before after, comes before after →
      scopeOf after = scopeOf before ∧
        (scopeOf before = scope → markedVisibility after = markedVisibility before))
    {definition later : Site} (run : Relation.EqvGen comes definition later) :
    scopeOf later = scopeOf definition ∧
      (scopeOf definition = scope → markedVisibility later = markedVisibility definition) := by
  induction run with
  | rel before after comes => exact step before after comes
  | refl site => exact ⟨rfl, fun _ => rfl⟩
  | symm before after _ ih => exact ⟨ih.1.symm, fun inScope => (ih.2 (ih.1 ▸ inScope)).symm⟩
  | trans first second third _ _ ih ih' =>
    exact ⟨ih'.1.trans ih.1, fun inScope => (ih'.2 (ih.1.trans inScope)).trans (ih.2 inScope)⟩

/-- Class markers that are put into a file or taken out of it, wherever they stand and however many
there are, leave a method of instances as visible as it was, unless one of them is overheard; then
the method is as visible as before or as the marker says. Markers for instances that are put into
the body of the unit of a method of the type, or taken out of it, leave that method as it was. -/
theorem markedVisibility_of_other_namespace (definition : Site) :
    (scopeOf definition = .ofInstance →
      (∀ later, Relation.EqvGen TypeMarkerComes definition later →
        scopeOf later = .ofInstance ∧ markedVisibility later = markedVisibility definition) ∧
      ∀ (insertion : Insertion) later, insertion.Moves definition later →
        IsMarkerOf .ofType insertion.statement →
          markedVisibility later = markedVisibility definition ∨
            Overheard insertion definition ∧
              aimsAt? .ofType definition.node.declaredName insertion.statement =
                some (markedVisibility later)) ∧
    (scopeOf definition = .ofType →
      ∀ later, Relation.EqvGen InstanceMarkerComes definition later →
        scopeOf later = .ofType ∧ markedVisibility later = markedVisibility definition) := by
  refine ⟨fun ofInstance => ⟨fun later run => ?_, fun insertion later moves isMarker =>
    markedVisibility_of_type_marker moves isMarker ofInstance⟩, fun ofType later run => ?_⟩
  · have kept := kept_of_eqvGen .ofInstance (fun before after comes => by
      obtain ⟨insertion, moves, isMarker, unheard⟩ := comes
      refine ⟨scopeOf_moves moves, fun inScope => ?_⟩
      rcases markedVisibility_of_type_marker moves isMarker inScope with same | ⟨overheard, -⟩
      · exact same
      · exact absurd overheard unheard) run
    exact ⟨kept.1.trans ofInstance, kept.2 ofInstance⟩
  · have kept := kept_of_eqvGen .ofType (fun before after comes => by
      obtain ⟨insertion, moves, isMarker, inUnit⟩ := comes
      exact ⟨scopeOf_moves moves,
        markedVisibility_of_instance_marker moves isMarker inUnit⟩) run
    exact ⟨kept.1.trans ofType, kept.2 ofType⟩

/-! A class with a section of hidden methods and a method of the type. A class marker comes in and
another marker goes out. -/

def vaultHidden : Node := .call none "private" [] none none

def vaultOpening : Node := .call none "private" [.symbol "open" none] none none

def vaultClosing : Node := .call none "public_class_method" [.symbol "seal" none] none none

def vaultGroup : Node := .singletonClass (.selfRef none) [.methodDef "open" [] none] none

/-- The class, with a statement between the section and its only method. -/
def vaultClass (between : List Node) : Node :=
  .classDef "Vault" none (vaultHidden :: between ++ [.methodDef "seal" [] none, vaultGroup]) none

def vaultProgram (between : List Node) : Node := .program [vaultClass between] none

def vaultSite (between : List Node) : Site := ⟨vaultClass between, [(vaultProgram between, 0)]⟩

/-- The method of instances. -/
def vaultSeal (between : List Node) : Site :=
  ⟨.methodDef "seal" [] none,
    (vaultClass between, between.length + 1) :: (vaultSite between).above⟩

/-- The method of the type. -/
def vaultOpen (between : List Node) : Site :=
  ⟨.methodDef "open" [] none,
    (vaultGroup, 1) :: (vaultClass between, between.length + 2) :: (vaultSite between).above⟩

def vaultInsertion (statement : Node) : Insertion where
  tree := vaultProgram []
  holder := vaultSite []
  statement := statement
  index := 1
  start := 0
  inside := Site.mem_walk_root.mpr ⟨rfl, rfl⟩
  holds := rfl

theorem markedVisibility_of_other_namespace_vault :
    Relation.EqvGen TypeMarkerComes (vaultSeal []) (vaultSeal [vaultClosing]) ∧
      scopeOf (vaultSeal [vaultClosing]) = .ofInstance ∧
      markedVisibility (vaultSeal [vaultClosing]) = .hidden ∧
      Relation.EqvGen InstanceMarkerComes (vaultOpen [vaultOpening]) (vaultOpen []) ∧
      scopeOf (vaultOpen []) = .ofType ∧ markedVisibility (vaultOpen []) = .open := by
  have comes : Relation.EqvGen TypeMarkerComes (vaultSeal []) (vaultSeal [vaultClosing]) := by
    refine .rel _ _ ⟨vaultInsertion vaultClosing, ⟨?_, ?_, rfl⟩, ⟨_, _, _, _, _, rfl, rfl⟩, ?_⟩
    · exact Site.mem_walk_root.mpr ⟨rfl, rfl, rfl⟩
    · exact Site.mem_walk_root.mpr ⟨rfl, rfl, rfl⟩
    · rintro ⟨scope, target, body, loc, found, isClass, -⟩
      -- the scope of the method is the class itself
      cases found
      cases isClass
  have goes : Relation.EqvGen InstanceMarkerComes (vaultOpen [vaultOpening]) (vaultOpen []) := by
    refine .symm _ _ (.rel _ _ ⟨vaultInsertion vaultOpening, ⟨?_, ?_, rfl⟩,
      ⟨_, _, _, _, _, rfl, rfl⟩, rfl⟩)
    · exact Site.mem_walk_root.mpr ⟨rfl, rfl, rfl, rfl⟩
    · exact Site.mem_walk_root.mpr ⟨rfl, rfl, rfl, rfl⟩
  have hidden : markedVisibility (vaultSeal []) = .hidden := by decide
  have shown : markedVisibility (vaultOpen [vaultOpening]) = .open := by decide
  obtain ⟨ofInstance, sealed⟩ :=
    ((markedVisibility_of_other_namespace (vaultSeal [])).1 rfl).1 _ comes
  obtain ⟨ofType, opened⟩ :=
    (markedVisibility_of_other_namespace (vaultOpen [vaultOpening])).2 rfl _ goes
  exact ⟨comes, ofInstance, sealed.trans hidden, goes, ofType, opened.trans shown⟩

/-! A method in the class of another object, which is not a method of the type. -/

def keeperClass : Node :=
  .singletonClass (.const "KEEPER" none) [.methodDef "open" [] none] none

/-- The class around it, with statements in front. -/
def keeperUnit (front : List Node) : Node := .classDef "Vault" none (front ++ [keeperClass]) none

def keeperProgram (front : List Node) : Node := .program [keeperUnit front] none

def keeperMethod (front : List Node) : Site :=
  ⟨.methodDef "open" [] none,
    [(keeperClass, 1), (keeperUnit front, front.length), (keeperProgram front, 0)]⟩

def keeperMarker : Node := .call none "private_class_method" [.symbol "open" none] none none

def keeperInsertion : Insertion where
  tree := keeperProgram []
  holder := ⟨keeperUnit [], [(keeperProgram [], 0)]⟩
  statement := keeperMarker
  index := 0
  start := 0
  inside := Site.mem_walk_root.mpr ⟨rfl, rfl⟩
  holds := rfl

/-- A class marker hides a method of instances. -/
theorem class_marker_is_overheard :
    ¬∀ (insertion : Insertion) (before after : Site), insertion.Moves before after →
      IsMarkerOf .ofType insertion.statement → before.node.isRoutine = true →
        scopeOf before = .ofInstance → markedVisibility after = markedVisibility before := by
  intro kept
  have moves : keeperInsertion.Moves (keeperMethod []) (keeperMethod [keeperMarker]) :=
    ⟨Site.mem_walk_root.mpr ⟨rfl, rfl, rfl, rfl⟩, Site.mem_walk_root.mpr ⟨rfl, rfl, rfl, rfl⟩, rfl⟩
  have same := kept keeperInsertion _ _ moves ⟨_, _, _, _, _, rfl, rfl⟩ rfl rfl
  have shown : markedVisibility (keeperMethod []) = .open := by decide
  have hidden : markedVisibility (keeperMethod [keeperMarker]) = .hidden := by decide
  rw [shown, hidden] at same
  cases same

end Routine

end SpecLint
