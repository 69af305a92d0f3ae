import SpecLint.Proofs.Code.Position
import Mathlib.Data.List.Induction

/-!
# Replacing a part of a tree

A tree with a part replaced is the same construct at every node above the part, with one child
changed. What stands at other places stays where it is, and what stands at the place of the part is
the replacement.

## Main result

`mem_walk_modifyAt`: the sites along the way to the replaced part, and where they are found after
the replacement.
-/
namespace SpecLint.Code

namespace Node

/-- A slot filled from the front of a list, unless it is empty. -/
def refill (slot : Option Node) (items : List Node) : Option Node :=
  slot.map fun node => items.headD node

/-- The construct with other children, as many as it has. -/
def withChildren : Node → List Node → Node
  | program _ loc, items => program items loc
  | classDef name superclass _ loc, items =>
    classDef name (refill superclass items) (items.drop superclass.toList.length) loc
  | moduleDef name _ loc, items => moduleDef name items loc
  | singletonClass target _ loc, items => singletonClass (items.headD target) items.tail loc
  | methodDef name _ loc, items => methodDef name items loc
  | singletonMethodDef receiver name _ loc, items =>
    singletonMethodDef (items.headD receiver) name items.tail loc
  | block _ loc, items => block items loc
  | call receiver name args attached loc, items =>
    let behind := items.drop receiver.toList.length
    call (refill receiver items) name (behind.take args.length)
      (refill attached (behind.drop args.length)) loc
  | arm condition _ loc, items =>
    arm (refill condition items) (items.drop condition.toList.length) loc
  | conditional form arms orelse negated loc, items =>
    conditional form (items.take arms.length) (orelse.map fun _ => items.drop arms.length) negated
      loc
  | caseOf subject arms orelse loc, items =>
    let behind := items.drop subject.toList.length
    caseOf (refill subject items) (behind.take arms.length)
      (orelse.map fun _ => behind.drop arms.length) loc
  | opAssign target operator value loc, items =>
    opAssign (items.headD target) operator (items.tail.headD value) loc
  | assign target value loc, items => assign (items.headD target) (items.tail.headD value) loc
  | returned value loc, items => returned (refill value items) loc
  | defined operand loc, items => defined (items.headD operand) loc
  | index receiver _ loc, items => index (items.headD receiver) items.tail loc
  | other kind _ loc, items => other kind items loc
  | leaf, _ => leaf

theorem toList_refill {slot : Option Node} {items : List Node}
    (enough : slot.toList.length ≤ items.length) :
    (refill slot items).toList = items.take slot.toList.length := by
  cases slot with
  | none => rfl
  | some node =>
    cases items with
    | nil => simp at enough
    | cons item items => simp [refill]

theorem toList_refill_append {slot : Option Node} {items : List Node}
    (enough : slot.toList.length ≤ items.length) :
    (refill slot items).toList ++ items.drop slot.toList.length = items := by
  rw [toList_refill enough, List.take_append_drop]

/-- An `else` that is absent takes nothing, and any other takes the rest. -/
theorem getD_map_drop {orelse : Option (List Node)} {items : List Node} {count : Nat}
    (size : items.length = count + (orelse.getD []).length) :
    (orelse.map fun _ => items.drop count).getD [] = items.drop count := by
  cases orelse with
  | none =>
    have short : items.length ≤ count := Nat.le_of_eq (by simpa using size)
    simp [List.drop_eq_nil_of_le short]
  | some listed => rfl

/-- The construct has the children it was given. -/
theorem children_withChildren {node : Node} {items : List Node}
    (size : items.length = node.children.length) : (node.withChildren items).children = items := by
  cases node with
  | program | moduleDef | methodDef | block | other => rfl
  | instanceVar | identifier | selfRef | const | symbol | str =>
    exact (List.length_eq_zero_iff.mp size).symm
  | classDef name superclass body loc =>
    simp only [children, List.length_append] at size
    exact toList_refill_append (by omega)
  | arm condition body loc =>
    simp only [children, List.length_append] at size
    exact toList_refill_append (by omega)
  | singletonClass target body loc =>
    cases items with
    | nil => simp [children] at size
    | cons item items => rfl
  | singletonMethodDef receiver name body loc =>
    cases items with
    | nil => simp [children] at size
    | cons item items => rfl
  | index receiver args loc =>
    cases items with
    | nil => simp [children] at size
    | cons item items => rfl
  | call receiver name args attached loc =>
    simp only [children, List.length_append] at size
    have tail : attached.toList.length ≤
        ((items.drop receiver.toList.length).drop args.length).length := by
      simp only [List.length_drop]
      omega
    have all : ((items.drop receiver.toList.length).drop args.length).length =
        attached.toList.length := by
      simp only [List.length_drop]
      omega
    simp only [withChildren, children]
    rw [toList_refill tail, ← all, List.take_length, List.append_assoc, List.take_append_drop,
      toList_refill_append (by omega)]
  | conditional form arms orelse negated loc =>
    simp only [children, List.length_append] at size
    simp only [withChildren, children]
    rw [getD_map_drop size, List.take_append_drop]
  | caseOf subject arms orelse loc =>
    simp only [children, List.length_append] at size
    have behind : (items.drop subject.toList.length).length =
        arms.length + (orelse.getD []).length := by
      simp only [List.length_drop]
      omega
    simp only [withChildren, children]
    rw [getD_map_drop behind, List.append_assoc, List.take_append_drop,
      toList_refill_append (by omega)]
  | opAssign target operator value loc =>
    obtain ⟨first, second, rfl⟩ := List.length_eq_two.mp size
    rfl
  | assign target value loc =>
    obtain ⟨first, second, rfl⟩ := List.length_eq_two.mp size
    rfl
  | returned value loc =>
    have enough : value.toList.length ≤ items.length := Nat.le_of_eq size.symm
    have whole := toList_refill_append enough
    have none : items.drop value.toList.length = [] :=
      List.drop_eq_nil_of_le (Nat.le_of_eq size)
    rw [none, List.append_nil] at whole
    exact whole
  | defined operand loc =>
    obtain ⟨only, rfl⟩ := List.length_eq_one_iff.mp size
    rfl

theorem length_toList_refill (slot : Option Node) (items : List Node) :
    (refill slot items).toList.length = slot.toList.length := by
  cases slot <;> rfl

theorem refill_refill {slot : Option Node} {items : List Node} (old : List Node)
    (enough : slot.toList.length ≤ items.length) :
    refill (refill slot old) items = refill slot items := by
  cases slot with
  | none => rfl
  | some node =>
    cases items with
    | nil => simp at enough
    | cons item items => rfl

/-- Children that are replaced again leave nothing behind. -/
theorem withChildren_withChildren {node : Node} {old items : List Node}
    (oldSize : old.length = node.children.length) (size : items.length = node.children.length) :
    (node.withChildren old).withChildren items = node.withChildren items := by
  cases node with
  | classDef name superclass body loc =>
    simp only [children, List.length_append] at size
    simp only [withChildren, length_toList_refill]
    rw [refill_refill _ (by omega)]
  | arm condition body loc =>
    simp only [children, List.length_append] at size
    simp only [withChildren, length_toList_refill]
    rw [refill_refill _ (by omega)]
  | call receiver name args attached loc =>
    simp only [children, List.length_append] at oldSize size
    have count : ((old.drop receiver.toList.length).take args.length).length = args.length := by
      rw [List.length_take, List.length_drop]
      omega
    simp only [withChildren, length_toList_refill, count]
    rw [refill_refill _ (by omega), refill_refill]
    rw [List.length_drop, List.length_drop]
    omega
  | conditional form arms orelse negated loc =>
    simp only [children, List.length_append] at oldSize
    have count : (old.take arms.length).length = arms.length := by
      rw [List.length_take]
      omega
    simp only [withChildren, count, Option.map_map]
    rfl
  | caseOf subject arms orelse loc =>
    simp only [children, List.length_append] at oldSize size
    have count : ((old.drop subject.toList.length).take arms.length).length = arms.length := by
      rw [List.length_take, List.length_drop]
      omega
    simp only [withChildren, length_toList_refill, count, Option.map_map]
    rw [refill_refill _ (by omega)]
    rfl
  | returned value loc =>
    have enough : value.toList.length ≤ items.length := Nat.le_of_eq size.symm
    simp only [withChildren, refill_refill old enough]
  | singletonClass | singletonMethodDef | index | defined =>
    cases items with
    | nil => simp [children] at size
    | cons item items => rfl
  | opAssign | assign =>
    obtain ⟨first, second, rfl⟩ := List.length_eq_two.mp size
    rfl
  | _ => rfl

/-- The tree with the part at a place changed. The positions lead down from the top. -/
def modifyAt (change : Node → Node) : List Nat → Node → Node
  | [], node => change node
  | position :: rest, node =>
    node.withChildren (node.children.modify position (modifyAt change rest))

theorem modifyAt_append (change : Node → Node) (above below : List Nat) (node : Node) :
    node.modifyAt change (above ++ below) = node.modifyAt (·.modifyAt change below) above := by
  induction above generalizing node with
  | nil => rfl
  | cons position above ih =>
    have inner : modifyAt change (above ++ below) = modifyAt (modifyAt change below) above :=
      funext ih
    rw [List.cons_append, modifyAt, inner, modifyAt]

theorem children_modifyAt (change : Node → Node) (position : Nat) (rest : List Nat) (node : Node) :
    (node.modifyAt change (position :: rest)).children =
      node.children.modify position (modifyAt change rest) :=
  children_withChildren (List.length_modify ..)

end Node

namespace Site

/-- The outermost frame tells where the way down begins. -/
theorem reverse_positions_concat (between : List (Node × Nat)) (top : Node) (position : Nat) :
    ((between ++ [(top, position)]).map (·.2)).reverse =
      position :: (between.map (·.2)).reverse := by
  simp

/-- A place keeps its position when what stands there is changed. -/
theorem leads_modifyAt {top lower : Node} {frames : List (Node × Nat)} (change : Node → Node)
    (leads : Leads top frames lower) :
    ∃ frames', frames'.map (·.2) = frames.map (·.2) ∧
      Leads (top.modifyAt change (frames.map (·.2)).reverse) frames' (change lower) := by
  induction frames using List.reverseRecOn generalizing top lower with
  | nil => exact ⟨[], rfl, congrArg change leads⟩
  | append_singleton inner frame ih =>
    obtain ⟨node, position⟩ := frame
    obtain ⟨rfl, child, found, leads⟩ := (leads_concat ..).mp leads
    obtain ⟨frames', same, leads'⟩ := ih leads
    rw [reverse_positions_concat]
    refine ⟨frames' ++ [(node.modifyAt change (position :: (inner.map (·.2)).reverse), position)],
      by rw [List.map_append, List.map_append, same]; rfl, ?_⟩
    refine (leads_concat ..).mpr ⟨rfl, _, ?_, leads'⟩
    rw [Node.children_modifyAt, List.getElem?_modify_eq, found]
    rfl

/-- The site at the place of a changed part. -/
theorem mem_walk_modifyAt {tree : Node} {site : Site} (change : Node → Node)
    (inside : site ∈ (root tree).walk) :
    ∃ changed ∈ (root (tree.modifyAt change site.path.reverse)).walk,
      changed.path = site.path ∧ changed.node = change site.node := by
  obtain ⟨frames, same, leads⟩ := leads_modifyAt change (mem_walk_root.mp inside)
  exact ⟨⟨change site.node, frames⟩, mem_walk_root.mpr leads, same, rfl⟩

end Site

end SpecLint.Code
