import SpecLint.Code.Site
import Mathlib.Data.List.Basic
import Mathlib.Data.List.Nodup
import Mathlib.Data.List.Lattice

/-!
# Positions of sites

The frames above a site say how it is reached: each frame is a node with the position of the child
through which the way goes on. A walk visits exactly the sites whose frames lead there from the top,
each of them once, so that inside one tree a path stands for one site. The statements of a scope are
children of it, and a site lies in at most one of them.
-/
namespace SpecLint.Code.Site

/-- The frames, innermost first, lead from `top` down to `lower`. -/
def Leads (top : Node) : List (Node × Nat) → Node → Prop
  | [], lower => lower = top
  | (node, position) :: outer, lower =>
    node.children[position]? = some lower ∧ Leads top outer node

theorem leads_append (top lower : Node) (inner outer : List (Node × Nat)) :
    Leads top (inner ++ outer) lower ↔
      ∃ middle, Leads top outer middle ∧ Leads middle inner lower := by
  induction inner generalizing lower with
  | nil => simp [Leads]
  | cons frame inner ih =>
    obtain ⟨node, position⟩ := frame
    simp only [List.cons_append, Leads, ih]
    constructor
    · rintro ⟨child, middle, reached, leads⟩
      exact ⟨middle, reached, child, leads⟩
    · rintro ⟨middle, reached, child, leads⟩
      exact ⟨child, middle, reached, leads⟩

/-- The first step from the top. -/
theorem leads_concat (top lower node : Node) (position : Nat) (inner : List (Node × Nat)) :
    Leads top (inner ++ [(node, position)]) lower ↔
      node = top ∧ ∃ child, top.children[position]? = some child ∧ Leads child inner lower := by
  simp only [leads_append, Leads]
  constructor
  · rintro ⟨child, ⟨found, rfl⟩, leads⟩
    exact ⟨rfl, child, found, leads⟩
  · rintro ⟨rfl, child, found, leads⟩
    exact ⟨child, ⟨found, rfl⟩, leads⟩

/-- From one top, the positions determine the frames and the node they lead to. -/
theorem leads_unique {top lower other : Node} {frames others : List (Node × Nat)}
    (first : Leads top frames lower) (second : Leads top others other)
    (same : frames.map (·.2) = others.map (·.2)) : frames = others ∧ lower = other := by
  induction frames generalizing others lower other with
  | nil =>
    cases others with
    | nil => exact ⟨rfl, first.trans second.symm⟩
    | cons frame rest => simp at same
  | cons frame outer ih =>
    cases others with
    | nil => simp at same
    | cons frame' outer' =>
      obtain ⟨node, position⟩ := frame
      obtain ⟨node', position'⟩ := frame'
      simp only [List.map_cons, List.cons.injEq] at same
      obtain ⟨rfl, below⟩ := same
      -- from the top inwards: equal outer frames make the parents equal
      obtain ⟨rfl, rfl⟩ := ih first.2 second.2 below
      have equal : some lower = some other := first.1.symm.trans second.1
      exact ⟨rfl, Option.some.inj equal⟩

/-! ### Walks -/

theorem mem_below {node : Node} {above : List (Node × Nat)} {site : Site} :
    site ∈ below node above ↔
      ∃ inner, site.above = inner ++ above ∧ Leads node inner site.node := by
  induction node using Node.induction generalizing above with
  | step node ih =>
    rw [below_eq]
    simp only [List.mem_cons, List.mem_flatMap]
    constructor
    · rintro (rfl | ⟨⟨child, position⟩, entry, member⟩)
      · exact ⟨[], rfl, rfl⟩
      · have found : node.children[position]? = some child := by
          simpa using List.mem_zipIdx_iff_getElem?.mp entry
        obtain ⟨inner, frames, leads⟩ := (ih child (List.mem_of_getElem? found)).mp member
        refine ⟨inner ++ [(node, position)], by simpa using frames, ?_⟩
        exact (leads_concat ..).mpr ⟨rfl, child, found, leads⟩
    · rintro ⟨inner, frames, leads⟩
      -- the outermost of the new frames belongs to the node itself
      rcases List.eq_nil_or_concat inner with rfl | ⟨inner, ⟨top, position⟩, rfl⟩
      · left
        obtain ⟨lower, _⟩ := site
        simp only [List.nil_append] at frames
        exact congrArg₂ Site.mk leads frames
      · right
        rw [List.concat_eq_append] at frames leads
        obtain ⟨rfl, child, found, leads⟩ := (leads_concat ..).mp leads
        refine ⟨(child, position), List.mem_zipIdx_iff_getElem?.mpr (by simpa using found), ?_⟩
        refine (ih child (List.mem_of_getElem? found)).mpr ⟨inner, ?_, leads⟩
        simpa using frames

theorem mem_walk {site start : Site} :
    site ∈ start.walk ↔
      ∃ inner, site.above = inner ++ start.above ∧ Leads start.node inner site.node :=
  mem_below

theorem mem_walk_root {tree : Node} {site : Site} :
    site ∈ (root tree).walk ↔ Leads tree site.above site.node := by
  simp [mem_walk, root]

/-- A walk visits no site twice. -/
theorem nodup_below (node : Node) (above : List (Node × Nat)) : (below node above).Nodup := by
  induction node using Node.induction generalizing above with
  | step node ih =>
    rw [below_eq, List.nodup_cons]
    constructor
    · -- every other site has more frames
      simp only [List.mem_flatMap, not_exists, not_and]
      intro entry _ member
      obtain ⟨inner, frames, _⟩ := mem_below.mp member
      have lengths := congrArg List.length frames
      simp at lengths
      omega
    · rw [List.nodup_flatMap]
      refine ⟨fun entry member => ih entry.1 (List.fst_mem_of_mem_zipIdx member) _, ?_⟩
      -- below two children the frame of the node has two positions
      have apart : (node.children.zipIdx.map (·.2)).Nodup := by
        rw [List.zipIdx_map_snd]
        exact List.nodup_range'
      refine (List.pairwise_map.mp apart).imp ?_
      intro left right differ site inLeft inRight
      obtain ⟨inner, frames, _⟩ := mem_below.mp inLeft
      obtain ⟨inner', frames', _⟩ := mem_below.mp inRight
      rw [frames] at frames'
      -- the frames end alike, so the position in the last new one is the same
      have ends := (List.append_inj' frames' (by
        have lengths := congrArg List.length frames'
        simp at lengths ⊢)).2
      simp only [List.cons.injEq, Prod.mk.injEq, true_and, and_true] at ends
      exact differ ends

theorem nodup_walk (site : Site) : site.walk.Nodup := nodup_below _ _

/-- Inside one tree a path stands for one site. -/
theorem eq_of_path_eq {start left right : Site} (inLeft : left ∈ start.walk)
    (inRight : right ∈ start.walk) (same : left.path = right.path) : left = right := by
  obtain ⟨inner, frames, leads⟩ := mem_walk.mp inLeft
  obtain ⟨inner', frames', leads'⟩ := mem_walk.mp inRight
  simp only [path, frames, frames', List.map_append, List.append_cancel_right_eq] at same
  obtain ⟨rfl, lower⟩ := leads_unique leads leads' same
  obtain ⟨node, above⟩ := left
  obtain ⟨node', above'⟩ := right
  simp only at frames frames' lower
  rw [lower, frames, frames']

/-! ### Enclosing sites -/

theorem mem_enclosing {above : List (Node × Nat)} {outer : Site} :
    outer ∈ enclosing above ↔
      ∃ inner position, above = inner ++ (outer.node, position) :: outer.above := by
  induction above with
  | nil => simp [enclosing]
  | cons frame above ih =>
    obtain ⟨node, position⟩ := frame
    simp only [enclosing, List.mem_cons, ih]
    constructor
    · rintro (rfl | ⟨inner, position', rfl⟩)
      · exact ⟨[], position, rfl⟩
      · exact ⟨(node, position) :: inner, position', rfl⟩
    · rintro ⟨inner, position', split⟩
      cases inner with
      | nil =>
        left
        obtain ⟨lower, _⟩ := outer
        simp only [List.nil_append, List.cons.injEq, Prod.mk.injEq] at split
        obtain ⟨⟨rfl, -⟩, rfl⟩ := split
        rfl
      | cons first inner =>
        right
        simp only [List.cons_append, List.cons.injEq] at split
        exact ⟨inner, position', split.2⟩

theorem mem_ancestors {site outer : Site} :
    outer ∈ site.ancestors ↔
      ∃ inner position, site.above = inner ++ (outer.node, position) :: outer.above :=
  mem_enclosing

/-- What encloses a site of a tree belongs to the tree. -/
theorem mem_walk_of_mem_ancestors {tree : Node} {site outer : Site}
    (inside : site ∈ (root tree).walk) (encloses : outer ∈ site.ancestors) :
    outer ∈ (root tree).walk := by
  obtain ⟨inner, position, frames⟩ := mem_ancestors.mp encloses
  rw [mem_walk_root, frames, leads_append] at inside
  obtain ⟨middle, leads, _⟩ := inside
  exact mem_walk_root.mpr leads.2

/-! ### Children -/

/-- The sites directly below a site. -/
def children (site : Site) : List Site :=
  site.node.children.zipIdx.map fun entry => ⟨entry.1, (site.node, entry.2) :: site.above⟩

theorem map_node_children (site : Site) : site.children.map (·.node) = site.node.children := by
  simp [children, List.zipIdx_map_fst, Function.comp_def]

theorem mem_children {site child : Site} :
    child ∈ site.children ↔ ∃ position, site.node.children[position]? = some child.node ∧
      child.above = (site.node, position) :: site.above := by
  simp only [children, List.mem_map, List.mem_zipIdx_iff_getElem?]
  constructor
  · rintro ⟨⟨node, position⟩, found, rfl⟩
    exact ⟨position, found, rfl⟩
  · rintro ⟨position, found, frames⟩
    exact ⟨(child.node, position), found, congrArg (Site.mk child.node) frames.symm⟩

/-- A walk goes on with the walks of the children. -/
theorem walk_eq (site : Site) : site.walk = site :: site.children.flatMap walk := by
  rw [walk, below_eq, children, List.flatMap_map]
  rfl

/-- What holds of a site as soon as it holds of all its children holds of every site. -/
theorem induction {motive : Site → Prop}
    (step : ∀ site, (∀ child ∈ site.children, motive child) → motive site) (site : Site) :
    motive site := by
  obtain ⟨node, above⟩ := site
  induction node using Node.induction generalizing above with
  | step node ih =>
    refine step _ fun child member => ?_
    obtain ⟨position, found, _⟩ := mem_children.mp member
    exact ih child.node (List.mem_of_getElem? found) child.above

/-- The walk from a site of a walk stays in that walk. -/
theorem mem_walk_trans {start outer site : Site} (inside : outer ∈ start.walk)
    (deeper : site ∈ outer.walk) : site ∈ start.walk := by
  obtain ⟨upper, frames, leads⟩ := mem_walk.mp inside
  obtain ⟨lower, frames', leads'⟩ := mem_walk.mp deeper
  rw [frames, ← List.append_assoc] at frames'
  exact mem_walk.mpr ⟨lower ++ upper, frames', (leads_append ..).mpr ⟨outer.node, leads, leads'⟩⟩

theorem mem_walk_of_mem_children {site child : Site} (isChild : child ∈ site.children) :
    child ∈ site.walk := by
  rw [walk_eq, List.mem_cons, List.mem_flatMap]
  exact .inr ⟨child, isChild, by rw [walk_eq]; exact List.mem_cons_self⟩

theorem ancestors_of_mem_children {site child : Site} (isChild : child ∈ site.children) :
    child.ancestors = site :: site.ancestors := by
  obtain ⟨position, _, frames⟩ := mem_children.mp isChild
  rw [ancestors, frames]
  rfl

/-- A site encloses all that its children's walks visit. -/
theorem mem_ancestors_of_mem_walk {site child inner : Site} (isChild : child ∈ site.children)
    (inside : inner ∈ child.walk) : site ∈ inner.ancestors := by
  obtain ⟨position, _, frames⟩ := mem_children.mp isChild
  obtain ⟨lower, frames', _⟩ := mem_walk.mp inside
  exact mem_ancestors.mpr ⟨lower, position, by rw [frames', frames]⟩

theorem mem_ancestors_trans {outer middle site : Site} (upper : outer ∈ middle.ancestors)
    (lower : middle ∈ site.ancestors) : outer ∈ site.ancestors := by
  obtain ⟨inner, position, frames⟩ := mem_ancestors.mp upper
  obtain ⟨inner', position', frames'⟩ := mem_ancestors.mp lower
  refine mem_ancestors.mpr ⟨inner' ++ (middle.node, position') :: inner, position, ?_⟩
  rw [frames', frames]
  simp

theorem depth_lt_of_mem_ancestors {outer site : Site} (encloses : outer ∈ site.ancestors) :
    outer.depth < site.depth := by
  obtain ⟨inner, position, frames⟩ := mem_ancestors.mp encloses
  simp only [depth, frames, List.length_append, List.length_cons]
  omega

/-! ### Statements of a scope -/

/-- The nodes that keep their statements themselves; a call leaves them to its block. -/
def HoldsBody : Node → Prop
  | .program .. | .classDef .. | .moduleDef .. | .singletonClass .. | .methodDef ..
  | .singletonMethodDef .. | .block .. => True
  | _ => False

/-- The statements are the last children. -/
theorem children_eq_append_body {scope : Node} (holds : HoldsBody scope) :
    ∃ header, scope.children = header ++ scope.body ∧ header.length = scope.bodyOffset := by
  cases scope <;> simp only [HoldsBody] at holds
  case classDef name superclass body loc => exact ⟨superclass.toList, rfl, rfl⟩
  case singletonClass target body loc => exact ⟨[target], rfl, rfl⟩
  case singletonMethodDef receiver name body loc => exact ⟨[receiver], rfl, rfl⟩
  all_goals exact ⟨[], rfl, rfl⟩

theorem body_eq_drop {scope : Node} (holds : HoldsBody scope) :
    scope.body = scope.children.drop scope.bodyOffset := by
  obtain ⟨header, split, size⟩ := children_eq_append_body holds
  rw [split, ← size, List.drop_left]

theorem getElem?_body {scope : Node} (holds : HoldsBody scope) (index : Nat) :
    scope.body[index]? = scope.children[index + scope.bodyOffset]? := by
  obtain ⟨header, split, size⟩ := children_eq_append_body holds
  rw [split, ← size, List.getElem?_append_right (Nat.le_add_left ..), Nat.add_sub_cancel]

theorem bodySite_eq {scope : Site} (holds : HoldsBody scope.node) : scope.bodySite = scope := by
  obtain ⟨node, above⟩ := scope
  cases node <;> first | rfl | exact holds.elim

theorem mem_statements {scope statement : Site} (holds : HoldsBody scope.node) :
    statement ∈ scope.statements ↔
      ∃ index, scope.node.body[index]? = some statement.node ∧
        statement.above = (scope.node, index + scope.node.bodyOffset) :: scope.above := by
  simp only [statements, bodySite_eq holds, List.mem_map, List.mem_zipIdx_iff_getElem?]
  constructor
  · rintro ⟨⟨node, index⟩, found, rfl⟩
    exact ⟨index, found, rfl⟩
  · rintro ⟨index, found, frames⟩
    exact ⟨(statement.node, index), found, congrArg (Site.mk statement.node) frames.symm⟩

/-- The statements are the children behind the header. -/
theorem children_eq_append_statements {scope : Site} (holds : HoldsBody scope.node) :
    ∃ front, scope.children = front ++ scope.statements := by
  obtain ⟨header, split, size⟩ := children_eq_append_body holds
  have tail : scope.statements = (scope.node.body.zipIdx header.length).map fun entry =>
      ⟨entry.1, (scope.node, entry.2) :: scope.above⟩ := by
    have later : scope.node.body.zipIdx header.length =
        scope.node.body.zipIdx.map fun entry => (entry.1, header.length + entry.2) :=
      List.zipIdx_eq_map_add
    rw [statements, bodySite_eq holds, later, List.map_map]
    apply List.map_congr_left
    intro entry _
    simp only [Function.comp_apply, size, Nat.add_comm]
  rw [tail, children, split, List.zipIdx_append, Nat.zero_add, List.map_append]
  exact ⟨_, rfl⟩

/-- The statements of a scope stand at different positions. -/
theorem nodup_paths_statements {scope : Site} (holds : HoldsBody scope.node) :
    (scope.statements.map path).Nodup := by
  have paths : scope.statements.map path =
      (scope.node.body.zipIdx.map (·.2)).map (fun index =>
        (index + scope.node.bodyOffset) :: scope.path) := by
    simp only [statements, bodySite_eq holds, path, List.map_map]
    rfl
  rw [paths, List.zipIdx_map_snd]
  apply List.Nodup.map _ List.nodup_range'
  intro first second same
  simpa using same

/-- A site below a scope lies in the statement that stands where the way to the site goes on. -/
theorem mem_walk_statement {tree : Node} {site scope statement : Site} {position : Nat}
    {inner : List (Node × Nat)} (inside : site ∈ (root tree).walk)
    (frames : site.above = inner ++ (scope.node, position) :: scope.above)
    (holds : HoldsBody scope.node) (member : statement ∈ scope.statements) :
    site ∈ statement.walk ↔ statement.path = position :: scope.path := by
  obtain ⟨index, found, above⟩ := (mem_statements holds).mp member
  simp only [mem_walk, path, above, List.map_cons, List.cons.injEq, and_true]
  rw [mem_walk_root, frames, leads_append] at inside
  obtain ⟨middle, outer, leads⟩ := inside
  constructor
  · rintro ⟨inner', frames', _⟩
    rw [frames] at frames'
    -- both ways to the site go through the same frame of the scope
    have ends := (List.append_inj' frames' (by simp)).2
    simp only [List.cons.injEq, Prod.mk.injEq, true_and, and_true] at ends
    exact ends.symm
  · rintro rfl
    refine ⟨inner, frames, ?_⟩
    -- the statement is the child that the way goes on with
    rw [getElem?_body holds, outer.1] at found
    rwa [← Option.some.inj found]

end SpecLint.Code.Site
