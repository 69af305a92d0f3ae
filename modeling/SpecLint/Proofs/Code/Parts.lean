import SpecLint.Proofs.Code.Origin

/-!
# Parts of a concrete node

A construct chooses among the readings of its parts. Reading keeps the concrete node, so each choice
is one among the concrete children: what is read of a node is the reading of what is chosen here.
-/
namespace SpecLint.Code

namespace Concrete

/-- The first child with a field name. -/
def child? (tree : Concrete) (field : String) : Option Concrete :=
  tree.children.find? (·.field == some field)

/-- Whether a node counts among the parts of its parent. -/
def isShown (tree : Concrete) : Bool := tree.named && !skippedKinds.contains tree.kind

def namedChildren (tree : Concrete) : List Concrete := tree.children.filter (·.named)

/-- The children that count. -/
def shown (tree : Concrete) : List Concrete := tree.children.filter (·.isShown)

theorem shown_eq_filter (tree : Concrete) :
    tree.shown = tree.namedChildren.filter fun child => !skippedKinds.contains child.kind := by
  rw [shown, namedChildren, List.filter_filter]
  congr 1
  funext child
  rw [isShown, Bool.and_comm]

/-- The children that count, those under the given fields left out. -/
def shownBeside (tree : Concrete) (fields : List String) : List Concrete :=
  tree.shown.filter fun child => !child.field.elim false fields.contains

/-- The first children with the given field names, in the order of the names. -/
def under (tree : Concrete) (fields : List String) : List Concrete :=
  fields.flatMap fun field => (tree.child? field).toList

/-- Where the statements of a construct stand: its body, or all parts that belong to no header. -/
def bodyParts (tree : Concrete) (headers : List String) : List Concrete :=
  match tree.child? "body" with
  | some body => [body]
  | none => tree.shownBeside headers

theorem sizeOf_lt_of_mem_children {child tree : Concrete} (member : child ∈ tree.children) :
    sizeOf child < sizeOf tree := by
  have inList := List.sizeOf_lt_of_mem member
  cases tree
  simp only [children] at inList
  simp
  omega

variable {child tree : Concrete} {field : String}

theorem mem_children_of_child? (found : tree.child? field = some child) :
    child ∈ tree.children :=
  List.mem_of_find?_eq_some found

theorem field_of_child? (found : tree.child? field = some child) : child.field = some field := by
  unfold child? at found
  have named := List.find?_some found
  exact beq_iff_eq.mp named

theorem under_cons (tree : Concrete) (field : String) (fields : List String) :
    tree.under (field :: fields) = (tree.child? field).toList ++ tree.under fields :=
  List.flatMap_cons

theorem shownBeside_nil (tree : Concrete) : tree.shownBeside [] = tree.shown := by
  rw [shownBeside, List.filter_eq_self]
  intro child _
  cases child.field <;> rfl

/-- Leaving out some fields of a list of parts. -/
theorem filter_under (tree : Concrete) (fields dropped : List String) :
    (tree.under fields).filter (fun child => !child.field.elim false dropped.contains) =
      tree.under (fields.filter fun field => !dropped.contains field) := by
  induction fields with
  | nil => rfl
  | cons field fields ih =>
    have here : (tree.child? field).toList.filter
        (fun child => !child.field.elim false dropped.contains) =
          if !dropped.contains field then (tree.child? field).toList else [] := by
      cases found : tree.child? field with
      | none => simp
      | some child => simp [field_of_child? found, List.filter_cons]
    rw [under_cons, List.filter_append, here, ih, List.filter_cons]
    split
    · rw [under_cons]
    · rw [List.nil_append]

theorem filter_patterns (tree : Concrete) (dropped : List String)
    (kept : dropped.contains "pattern" = false) :
    (tree.children.filter (·.field == some "pattern")).filter
        (fun child => !child.field.elim false dropped.contains) =
      tree.children.filter (·.field == some "pattern") := by
  rw [List.filter_eq_self]
  intro child isPattern
  rw [beq_iff_eq.mp (List.mem_filter.mp isPattern).2, Option.elim_some, kept]
  rfl

theorem mem_children_of_under {fields : List String} (member : child ∈ tree.under fields) :
    child ∈ tree.children := by
  obtain ⟨field, -, found⟩ := List.mem_flatMap.mp member
  exact mem_children_of_child? (Option.mem_toList.mp found)

theorem mem_children_of_namedChildren (member : child ∈ tree.namedChildren) :
    child ∈ tree.children :=
  (List.mem_filter.mp member).1

theorem mem_children_of_shown (member : child ∈ tree.shown) : child ∈ tree.children :=
  (List.mem_filter.mp member).1

theorem mem_children_of_bodyParts {headers : List String}
    (member : child ∈ tree.bodyParts headers) : child ∈ tree.children := by
  unfold bodyParts at member
  split at member
  next body found =>
    rw [List.mem_singleton.mp member]
    exact mem_children_of_child? found
  next => exact mem_children_of_shown (List.mem_filter.mp member).1

end Concrete

/-! ### Nodes further down -/

/-- A node below another one, at any depth. -/
def Below (tree inner : Concrete) : Prop := ∃ outer, Inside tree outer ∧ inner ∈ outer.children

variable {tree child inner : Concrete}

theorem Inside.trans (outer : Inside tree child) (deeper : Inside child inner) :
    Inside tree inner := by
  induction deeper with
  | here => exact outer
  | child inside member ih => exact ih.child member

theorem Inside.top (inside : Inside tree inner) :
    inner = tree ∨ ∃ child ∈ tree.children, Inside child inner := by
  induction inside with
  | here => exact .inl rfl
  | child inside member ih =>
    rcases ih with rfl | ⟨child, isChild, deeper⟩
    · exact .inr ⟨_, member, .here⟩
    · exact .inr ⟨child, isChild, deeper.child member⟩

/-- What holds of all nodes of a tree holds of its root and of all nodes of its children. -/
theorem forall_inside {P : Concrete → Prop} {kind : String} {named missing : Bool}
    {start stop : Nat} {field : Option String} {children : List Concrete} :
    (∀ inner, Inside (.node kind named missing start stop field children) inner → P inner) ↔
      P (.node kind named missing start stop field children) ∧
        ∀ child ∈ children, ∀ inner, Inside child inner → P inner := by
  constructor
  · intro all
    exact ⟨all _ .here, fun child member inner inside =>
      all inner (Inside.trans (.child .here member) inside)⟩
  · rintro ⟨here, below⟩ inner inside
    rcases inside.top with rfl | ⟨child, isChild, deeper⟩
    · exact here
    · exact below child isChild inner deeper

theorem Below.inside (below : Below tree inner) : Inside tree inner := by
  obtain ⟨outer, inside, member⟩ := below
  exact inside.child member

theorem Below.of_inside (inside : Inside tree child) (below : Below child inner) :
    Below tree inner := by
  obtain ⟨outer, deeper, member⟩ := below
  exact ⟨outer, inside.trans deeper, member⟩

theorem below_child (member : inner ∈ tree.children) : Below tree inner := ⟨tree, .here, member⟩

theorem below_of_inside (isChild : child ∈ tree.children) (inside : Inside child inner) :
    Below tree inner := by
  cases inside with
  | here => exact below_child isChild
  | child inside member => exact ⟨_, Inside.trans (.child .here isChild) inside, member⟩

theorem Below.deeper (isChild : child ∈ tree.children) (below : Below child inner) :
    Below tree inner :=
  below.of_inside (.child .here isChild)

theorem Inside.sizeOf_le (inside : Inside tree inner) : sizeOf inner ≤ sizeOf tree := by
  induction inside with
  | here => exact Nat.le_refl _
  | child inside member ih =>
    exact Nat.le_of_lt (Nat.lt_of_lt_of_le (Concrete.sizeOf_lt_of_mem_children member) ih)

theorem Below.sizeOf_lt (below : Below tree inner) : sizeOf inner < sizeOf tree := by
  obtain ⟨outer, inside, member⟩ := below
  exact Nat.lt_of_lt_of_le (Concrete.sizeOf_lt_of_mem_children member) inside.sizeOf_le

/-! ### Nodes one after the other -/

namespace Concrete

mutual
/-- The nodes that a walk from the root comes to if it enters some nodes only. -/
def reached (enters : Concrete → Bool) : Concrete → List Concrete
  | .node kind named missing start stop field children =>
    let tree := Concrete.node kind named missing start stop field children
    tree :: if enters tree then reachedAll enters children else []

def reachedAll (enters : Concrete → Bool) : List Concrete → List Concrete
  | [] => []
  | tree :: rest => reached enters tree ++ reachedAll enters rest
end

theorem reachedAll_eq_flatMap (enters : Concrete → Bool) (trees : List Concrete) :
    reachedAll enters trees = trees.flatMap (reached enters) := by
  induction trees with
  | nil => simp [reachedAll]
  | cons tree rest ih => simp [reachedAll, ih]

theorem reached_eq (enters : Concrete → Bool) (tree : Concrete) :
    tree.reached enters =
      tree :: if enters tree then tree.children.flatMap (reached enters) else [] := by
  cases tree with
  | node => rw [reached, reachedAll_eq_flatMap, children]

theorem inside_of_mem_reached {enters : Concrete → Bool} {tree inner : Concrete}
    (member : inner ∈ tree.reached enters) : Inside tree inner := by
  rw [reached_eq, List.mem_cons] at member
  rcases member with rfl | deeper
  · exact .here
  · split at deeper
    · obtain ⟨child, isChild, deeper⟩ := List.mem_flatMap.mp deeper
      exact Inside.trans (.child .here isChild) (inside_of_mem_reached deeper)
    · cases deeper
termination_by sizeOf tree
decreasing_by exact sizeOf_lt_of_mem_children isChild

/-- A walk that enters every node comes to every node. -/
theorem mem_reached_iff {tree inner : Concrete} :
    inner ∈ tree.reached (fun _ => true) ↔ Inside tree inner := by
  refine ⟨inside_of_mem_reached, fun inside => ?_⟩
  rw [reached_eq, if_pos rfl, List.mem_cons, List.mem_flatMap]
  rcases inside.top with rfl | ⟨child, isChild, deeper⟩
  · exact .inl rfl
  · exact .inr ⟨child, isChild, mem_reached_iff.mpr deeper⟩
termination_by sizeOf tree
decreasing_by exact sizeOf_lt_of_mem_children isChild

end Concrete

instance decidableForallInside {P : Concrete → Prop} [DecidablePred P] (tree : Concrete) :
    Decidable (∀ inner, Inside tree inner → P inner) :=
  decidable_of_iff (∀ inner ∈ tree.reached fun _ => true, P inner)
    (forall_congr' fun _ => imp_congr_left Concrete.mem_reached_iff)

/-! ### Readings of parts -/

variable (source : Source)

theorem part?_readAll (trees : List Concrete) (field : String) :
    part? (readAll source trees) field =
      (trees.find? (·.field == some field)).map (read source) := by
  rw [readAll_eq_map, part?, List.find?_map]
  congr 2
  funext tree
  simp [tree_read]

theorem filter_readAll (trees : List Concrete) (test : Concrete → Bool) :
    (readAll source trees).filter (fun part => test part.tree) =
      (trees.filter test).map (read source) := by
  rw [readAll_eq_map, List.filter_map]
  congr 2
  funext tree
  rw [Function.comp_apply, tree_read]

theorem partsNamed_readAll (trees : List Concrete) (field : String) :
    partsNamed (readAll source trees) field =
      (trees.filter (·.field == some field)).map (read source) :=
  filter_readAll source trees (·.field == some field)

variable (tree : Concrete)

theorem namedParts_readAll :
    namedParts (readAll source tree.children) = tree.namedChildren.map (read source) :=
  filter_readAll source tree.children _

theorem shownParts_readAll :
    shownParts (readAll source tree.children) = tree.shown.map (read source) := by
  rw [shownParts, namedParts_readAll, tree.shown_eq_filter, ← readAll_eq_map, ← filter_readAll]
  rfl

theorem partsBeside_readAll (fields : List String) :
    partsBeside (readAll source tree.children) fields =
      (tree.shownBeside fields).map (read source) := by
  rw [partsBeside, shownParts_readAll, ← readAll_eq_map, Concrete.shownBeside, ← filter_readAll]

end SpecLint.Code
