import SpecLint.Proofs.Code.Replacement

/-!
# Inserting a statement

A statement that is put into a tree stands among the statements of one construct. The statements
behind it move on by one position, and everything below them moves along. What encloses the new
statement is the same construct as before, and everything else is what it was.

## Main results

`Insertion.Moves.up` and `Insertion.Moves.node`: where the surroundings of a site are after an
insertion, and what they are.
-/
namespace SpecLint.Code

namespace Node

/-- The position among the children at which the statements of a construct begin, if it has any
place for statements. -/
def statementsFrom? : Node → Option Nat
  | program .. | moduleDef .. | methodDef .. | block .. | other .. => some 0
  | classDef _ superclass _ _ => some superclass.toList.length
  | singletonClass .. | singletonMethodDef .. => some 1
  | arm condition _ _ => some condition.toList.length
  | conditional _ arms orelse _ _ => orelse.map fun _ => arms.length
  | caseOf subject arms orelse _ => orelse.map fun _ => subject.toList.length + arms.length
  | _ => none

/-- The construct with one more statement. Of the branches of a decision each has its own. -/
def withStatement (node statement : Node) (index : Nat) : Node :=
  match node with
  | program body loc => program (body.insertIdx index statement) loc
  | classDef name superclass body loc =>
    classDef name superclass (body.insertIdx index statement) loc
  | moduleDef name body loc => moduleDef name (body.insertIdx index statement) loc
  | singletonClass target body loc => singletonClass target (body.insertIdx index statement) loc
  | methodDef name body loc => methodDef name (body.insertIdx index statement) loc
  | singletonMethodDef receiver name body loc =>
    singletonMethodDef receiver name (body.insertIdx index statement) loc
  | block body loc => block (body.insertIdx index statement) loc
  | arm condition body loc => arm condition (body.insertIdx index statement) loc
  | conditional form arms orelse negated loc =>
    conditional form arms (orelse.map (·.insertIdx index statement)) negated loc
  | caseOf subject arms orelse loc =>
    caseOf subject arms (orelse.map (·.insertIdx index statement)) loc
  | other kind children loc => other kind (children.insertIdx index statement) loc
  | leaf => leaf

theorem insertIdx_append {α : Type} (front back : List α) (index : Nat) (item : α) :
    (front ++ back).insertIdx (front.length + index) item = front ++ back.insertIdx index item := by
  induction front with
  | nil => simp
  | cons first front ih =>
    have later : (first :: front).length + index = front.length + index + 1 := by
      simp only [List.length_cons]
      omega
    rw [later, List.cons_append, List.insertIdx_succ_cons, ih, List.cons_append]

variable {statement : Node} {index : Nat}

/-- The statement is one more child. -/
theorem children_withStatement {node : Node} {start : Nat}
    (holds : node.statementsFrom? = some start) :
    (node.withStatement statement index).children =
      node.children.insertIdx (start + index) statement := by
  cases node with
  | program | moduleDef | methodDef | block | other =>
    cases holds
    rw [Nat.zero_add]
    rfl
  | classDef name superclass body loc =>
    cases holds
    exact (insertIdx_append ..).symm
  | arm condition body loc =>
    cases holds
    exact (insertIdx_append ..).symm
  | singletonClass target body loc =>
    cases holds
    exact (insertIdx_append [target] body index statement).symm
  | singletonMethodDef receiver name body loc =>
    cases holds
    exact (insertIdx_append [receiver] body index statement).symm
  | conditional form arms orelse negated loc =>
    cases orelse with
    | none => cases holds
    | some listed =>
      cases holds
      exact (insertIdx_append ..).symm
  | caseOf subject arms orelse loc =>
    cases orelse with
    | none => cases holds
    | some listed =>
      cases holds
      have before : (subject.toList ++ arms).length = subject.toList.length + arms.length :=
        List.length_append
      rw [← before]
      exact (insertIdx_append ..).symm
  | _ => cases holds

/-- What is read off a construct alone is the same with a part changed by an insertion. -/
theorem head_modifyAt {β : Type} (head : Node → β)
    (grown : ∀ node, head (node.withStatement statement index) = head node)
    (refilled : ∀ node items, items.length = node.children.length →
      head (node.withChildren items) = head node)
    (place : List Nat) (node : Node) :
    head (node.modifyAt (·.withStatement statement index) place) = head node := by
  cases place with
  | nil => exact grown node
  | cons position rest => exact refilled node _ (List.length_modify ..)

/-! ### Places -/

/-- The node at a place, if there is one. The positions lead down from the top. -/
def at? : List Nat → Node → Option Node
  | [], node => some node
  | position :: rest, node => node.children[position]?.bind (at? rest)

/-- Where the child at a position stands with one more child at `start`. -/
def moved (start position : Nat) : Nat := if position < start then position else position + 1

theorem getElem?_moved {α : Type} {items : List α} {item other : α} {start position : Nat}
    (found : items[position]? = some other) :
    (items.insertIdx start item)[moved start position]? = some other := by
  rw [List.getElem?_insertIdx, ← found]
  unfold moved
  split
  next before => rfl
  next behind =>
    rw [if_neg (by omega), if_neg (by omega)]
    rfl

/-- Where a way down leads with one more child at a place. -/
def shifted : (place : List Nat) → (start : Nat) → (way : List Nat) → List Nat
  | [], start, position :: rest => moved start position :: rest
  | step :: place, start, position :: rest =>
    position :: if step = position then shifted place start rest else rest
  | _, _, [] => []

theorem shifted_nil (place : List Nat) (start : Nat) : shifted place start [] = [] := by
  cases place <;> rfl

/-- Only the step from the place itself is another one. -/
theorem shifted_concat (place : List Nat) (start : Nat) (way : List Nat) (position : Nat) :
    shifted place start (way ++ [position]) =
      shifted place start way ++ [if place = way then moved start position else position] := by
  induction way generalizing place with
  | nil =>
    cases place with
    | nil => rfl
    | cons step place => simp [shifted, shifted_nil]
  | cons first way ih =>
    cases place with
    | nil => rfl
    | cons step place =>
      by_cases same : step = first
      · simp [shifted, same, ih]
      · simp [shifted, same]

/-- What stands at a place on the way to an insertion contains it, and everything else is as it
was. -/
theorem at?_shifted (statement : Node) (index : Nat) {tree holder node : Node}
    {place way : List Nat} {start : Nat}
    (inside : tree.at? place = some holder) (holds : holder.statementsFrom? = some start)
    (found : tree.at? way = some node) :
    (∃ rest, place = way ++ rest ∧
      (tree.modifyAt (·.withStatement statement index) place).at?
        (shifted place (start + index) way) =
          some (node.modifyAt (·.withStatement statement index) rest)) ∨
    ¬way <+: place ∧
      (tree.modifyAt (·.withStatement statement index) place).at?
        (shifted place (start + index) way) = some node := by
  induction way generalizing tree place with
  | nil =>
    cases found
    exact .inl ⟨place, rfl, by rw [shifted_nil, at?]⟩
  | cons position way ih =>
    obtain ⟨child, here, below⟩ := Option.bind_eq_some_iff.mp found
    cases place with
    | nil =>
      -- the way leads on from the holder, past the new statement
      cases inside
      refine .inr ⟨by simp, ?_⟩
      rw [modifyAt, shifted, at?, children_withStatement holds, getElem?_moved here]
      exact below
    | cons step place =>
      obtain ⟨next, there, deeper⟩ := Option.bind_eq_some_iff.mp inside
      rw [shifted, at?, children_modifyAt]
      by_cases same : step = position
      · subst same
        rw [there] at here
        cases here
        rw [List.getElem?_modify_eq, there, if_pos rfl]
        rcases ih deeper below with ⟨rest, split, result⟩ | ⟨apart, result⟩
        · exact .inl ⟨rest, by rw [split, List.cons_append], result⟩
        · exact .inr ⟨by simpa using apart, result⟩
      · rw [List.getElem?_modify_ne _ _ same, if_neg same, here]
        refine .inr ⟨fun within => same ?_, below⟩
        exact (List.cons_prefix_cons.mp within).1.symm

end Node

namespace Site

theorem at?_of_leads {top lower : Node} {frames : List (Node × Nat)}
    (leads : Leads top frames lower) : top.at? (frames.map (·.2)).reverse = some lower := by
  induction frames using List.reverseRecOn generalizing top with
  | nil => exact congrArg some leads.symm
  | append_singleton inner frame ih =>
    obtain ⟨node, position⟩ := frame
    obtain ⟨rfl, child, found, leads⟩ := (leads_concat ..).mp leads
    rw [reverse_positions_concat, Node.at?, found]
    exact ih leads

theorem at?_path {tree : Node} {site : Site} (inside : site ∈ (root tree).walk) :
    tree.at? site.path.reverse = some site.node :=
  at?_of_leads (mem_walk_root.mp inside)

end Site

/-! ### Insertions -/

/-- One statement that is put into a tree, among the statements of a construct in it. -/
structure Insertion where
  tree : Node
  holder : Site
  statement : Node
  /-- How many statements stand before the new one. -/
  index : Nat
  /-- Where the statements of the holder begin. -/
  start : Nat
  inside : holder ∈ (Site.root tree).walk
  holds : holder.node.statementsFrom? = some start

namespace Insertion

/-- The tree with the statement. -/
def result (insertion : Insertion) : Node :=
  insertion.tree.modifyAt (·.withStatement insertion.statement insertion.index)
    insertion.holder.path.reverse

/-- A site and where it is after the insertion. -/
structure Moves (insertion : Insertion) (before after : Site) : Prop where
  source : before ∈ (Site.root insertion.tree).walk
  target : after ∈ (Site.root insertion.result).walk
  place : after.path.reverse = Node.shifted insertion.holder.path.reverse
    (insertion.start + insertion.index) before.path.reverse

variable {insertion : Insertion} {before after : Site}

namespace Moves

/-- What stands at the new place. -/
theorem node (moves : insertion.Moves before after) :
    (∃ rest, insertion.holder.path.reverse = before.path.reverse ++ rest ∧
      after.node =
        before.node.modifyAt (·.withStatement insertion.statement insertion.index) rest) ∨
    ¬before.path.reverse <+: insertion.holder.path.reverse ∧ after.node = before.node := by
  have found := Node.at?_shifted insertion.statement insertion.index
    (Site.at?_path insertion.inside) insertion.holds (Site.at?_path moves.source)
  have there := Site.at?_path moves.target
  rw [moves.place, result] at there
  rcases found with ⟨rest, split, result⟩ | ⟨apart, result⟩
  · exact .inl ⟨rest, split, Option.some.inj (there.symm.trans result)⟩
  · exact .inr ⟨apart, Option.some.inj (there.symm.trans result)⟩

/-- Whatever the place, a construct is the same one with parts changed, if any. -/
theorem head (moves : insertion.Moves before after) {β : Type} (head : Node → β)
    (grown : ∀ node,
      head (node.withStatement insertion.statement insertion.index) = head node)
    (refilled : ∀ node items, items.length = node.children.length →
      head (node.withChildren items) = head node) :
    head after.node = head before.node := by
  rcases moves.node with ⟨rest, -, same⟩ | ⟨-, same⟩
  · rw [same]
    exact Node.head_modifyAt head grown refilled rest before.node
  · rw [same]

/-- At the holder itself there is one more statement. -/
theorem node_holder (moves : insertion.Moves insertion.holder after) :
    after.node =
      insertion.holder.node.withStatement insertion.statement insertion.index := by
  rcases moves.node with ⟨rest, split, same⟩ | ⟨apart, -⟩
  · have nothing : rest = [] := List.self_eq_append_right.mp split
    rw [same, nothing]
    rfl
  · exact absurd (List.prefix_refl _) apart

/-- Elsewhere there is not: either some child is another one, or nothing is. -/
theorem node_of_ne (moves : insertion.Moves before after) (elsewhere : before ≠ insertion.holder) :
    (∃ position rest, after.node = before.node.modifyAt
      (·.withStatement insertion.statement insertion.index) (position :: rest)) ∨
    after.node = before.node := by
  rcases moves.node with ⟨rest, split, same⟩ | ⟨-, same⟩
  · cases rest with
    | nil =>
      rw [List.append_nil, List.reverse_inj] at split
      exact absurd (Site.eq_of_path_eq moves.source insertion.inside split.symm) elsewhere
    | cons position rest => exact .inl ⟨position, rest, same⟩
  · exact .inr same

/-- One step up. The position there is another one only if the holder is reached. -/
theorem up (moves : insertion.Moves before after) {parent : Node} {position : Nat}
    {outer : List (Node × Nat)} (frames : before.above = (parent, position) :: outer) :
    ∃ parent' position' outer', after.above = (parent', position') :: outer' ∧
      insertion.Moves ⟨parent, outer⟩ ⟨parent', outer'⟩ ∧
      (insertion.holder = ⟨parent, outer⟩ ∧
          position' = Node.moved (insertion.start + insertion.index) position ∨
        insertion.holder ≠ ⟨parent, outer⟩ ∧ position' = position) := by
  have place := moves.place
  simp only [Site.path, frames, List.map_cons, List.reverse_cons, Node.shifted_concat] at place
  cases frames' : after.above with
  | nil => simp [frames'] at place
  | cons frame outer' =>
    obtain ⟨parent', position'⟩ := frame
    rw [frames', List.map_cons, List.reverse_cons] at place
    obtain ⟨way, last⟩ := List.append_inj' place rfl
    have source : ⟨parent, outer⟩ ∈ (Site.root insertion.tree).walk :=
      Site.mem_walk_of_mem_ancestors moves.source (Site.mem_ancestors.mpr ⟨[], position, frames⟩)
    have target : ⟨parent', outer'⟩ ∈ (Site.root insertion.result).walk :=
      Site.mem_walk_of_mem_ancestors moves.target (Site.mem_ancestors.mpr ⟨[], position', frames'⟩)
    refine ⟨parent', position', outer', rfl, ⟨source, target, way⟩, ?_⟩
    rw [List.cons.injEq, and_iff_left rfl] at last
    -- the holder is the parent if its place is the one above the last step
    by_cases same : insertion.holder = ⟨parent, outer⟩
    · refine .inl ⟨same, ?_⟩
      exact last.trans (if_pos (by rw [same]))
    · refine .inr ⟨same, ?_⟩
      refine last.trans (if_neg fun path => ?_)
      exact same (Site.eq_of_path_eq insertion.inside source (List.reverse_inj.mp path))

theorem above_nil (moves : insertion.Moves before after) (top : before.above = []) :
    after.above = [] := by
  have place := congrArg List.length moves.place
  simpa [Site.path, top, Node.shifted_nil] using place

theorem parent (moves : insertion.Moves before after) :
    before.parent? = none ∧ after.parent? = none ∨
      ∃ parent parent', before.parent? = some parent ∧ after.parent? = some parent' ∧
        insertion.Moves parent parent' := by
  cases frames : before.above with
  | nil =>
    have frames' := moves.above_nil frames
    exact .inl ⟨by rw [Site.parent?, frames], by rw [Site.parent?, frames']⟩
  | cons frame outer =>
    obtain ⟨node, position⟩ := frame
    obtain ⟨node', position', outer', frames', up, -⟩ := moves.up frames
    exact .inr ⟨_, _, by rw [Site.parent?, frames], by rw [Site.parent?, frames'], up⟩

/-- The nearest site of a kind that insertions keep moves along with what it encloses. -/
theorem nearest (moves : insertion.Moves before after) {test : Site → Bool}
    (kept : ∀ before after, insertion.Moves before after → test after = test before) :
    before.ancestors.find? test = none ∧ after.ancestors.find? test = none ∨
    ∃ outer outer' inner position inner' position',
      before.ancestors.find? test = some outer ∧ after.ancestors.find? test = some outer' ∧
      insertion.Moves outer outer' ∧
      before.above = inner ++ (outer.node, position) :: outer.above ∧
      after.above = inner' ++ (outer'.node, position') :: outer'.above ∧
      (insertion.holder = outer ∧
          position' = Node.moved (insertion.start + insertion.index) position ∨
        insertion.holder ≠ outer ∧ position' = position) := by
  obtain ⟨lower, above⟩ := before
  induction above generalizing lower after with
  | nil =>
    refine .inl ⟨rfl, ?_⟩
    rw [Site.ancestors, moves.above_nil rfl]
    rfl
  | cons frame outer ih =>
    obtain ⟨parent, position⟩ := frame
    obtain ⟨parent', position', outer', frames', up, place⟩ := moves.up rfl
    have step : after.ancestors = ⟨parent', outer'⟩ :: Site.ancestors ⟨parent', outer'⟩ := by
      rw [Site.ancestors, frames']
      rfl
    have here : Site.ancestors ⟨lower, (parent, position) :: outer⟩ =
        ⟨parent, outer⟩ :: Site.ancestors ⟨parent, outer⟩ := rfl
    rw [step, here, List.find?_cons, List.find?_cons, kept _ _ up]
    cases passes : test ⟨parent, outer⟩ with
    | true => exact .inr ⟨_, _, [], position, [], position', rfl, rfl, up, rfl, frames', place⟩
    | false =>
      rcases ih parent up with none | ⟨found, found', inner, at', inner', at'', one, two, next,
        frames, frames'', same⟩
      · exact .inl none
      · refine .inr ⟨found, found', (parent, position) :: inner, at',
          (parent', position') :: inner', at'', one, two, next, ?_, ?_, same⟩
        · exact congrArg ((parent, position) :: ·) frames
        · rw [frames']
          exact congrArg ((parent', position') :: ·) frames''

end Moves

end Insertion

end SpecLint.Code
