import SpecLint.Code.Node

/-!
# Sites

A site is a node together with the nodes that enclose it and the child positions leading down to it.
Within one tree the positions identify a site, so "the same node" means "the same path" even where
two parts of a tree are equal. The sites of a tree, in the order of a walk, carry exactly the nodes
of the walk.
-/
namespace SpecLint.Code

structure Site where
  node : Node
  /-- The enclosing nodes, innermost first, each with the child position that leads further down. -/
  above : List (Node × Nat)
  deriving Repr

namespace Site

def root (node : Node) : Site := ⟨node, []⟩

/-- The child positions from the site up to the root. -/
def path (site : Site) : List Nat := site.above.map (·.2)

/-- Whether two sites of one tree are the same. -/
def same (left right : Site) : Bool := left.path == right.path

def parent? (site : Site) : Option Site :=
  match site.above with
  | [] => none
  | (node, _) :: rest => some ⟨node, rest⟩

/-- The sites of enclosing nodes, innermost first. -/
def enclosing : List (Node × Nat) → List Site
  | [] => []
  | (node, _) :: rest => ⟨node, rest⟩ :: enclosing rest

def ancestors (site : Site) : List Site := enclosing site.above

def depth (site : Site) : Nat := site.above.length

/-- The sites below `node`, itself included, given what encloses it. -/
def below (node : Node) (above : List (Node × Nat)) : List Site :=
  ⟨node, above⟩ :: node.children.zipIdx.attach.flatMap fun entry =>
    below entry.1.1 ((node, entry.1.2) :: above)
termination_by sizeOf node
decreasing_by exact Node.sizeOf_lt_of_mem_children (List.fst_mem_of_mem_zipIdx entry.2)

/-- The sites of a subtree in the order of a walk. -/
def walk (site : Site) : List Site := below site.node site.above

theorem below_eq (node : Node) (above : List (Node × Nat)) :
    below node above = ⟨node, above⟩ :: node.children.zipIdx.flatMap fun entry =>
      below entry.1 ((node, entry.2) :: above) := by
  rw [below]
  simp only [List.flatMap_def, List.cons.injEq, true_and]
  exact congrArg List.flatten (List.map_attach_eq_pmap .. |>.trans (by simp [List.pmap_eq_map]))

/-- A walk over sites visits the nodes of a walk over nodes. -/
theorem map_node_below (node : Node) (above : List (Node × Nat)) :
    (below node above).map (·.node) = node.walk := by
  induction node using Node.induction generalizing above with
  | step node ih =>
    rw [below_eq, Node.walk_eq]
    simp only [List.map_cons, List.cons.injEq, true_and, List.map_flatMap]
    have inner : ∀ entry ∈ node.children.zipIdx,
        (below entry.1 ((node, entry.2) :: above)).map (·.node) = entry.1.walk :=
      fun entry member => ih entry.1 (List.fst_mem_of_mem_zipIdx member) _
    rw [List.flatMap_def, List.map_congr_left inner]
    simp only [List.flatMap_def]
    rw [← List.zipIdx_map_fst 0 node.children, List.map_map]
    simp [Function.comp_def]

theorem map_node_walk (site : Site) : site.walk.map (·.node) = site.node.walk :=
  map_node_below _ _

theorem length_ancestors (site : Site) : site.ancestors.length = site.depth := by
  have (above : List (Node × Nat)) : (enclosing above).length = above.length := by
    induction above with
    | nil => rfl
    | cons frame rest ih => simp [enclosing, ih]
  exact this site.above

/-- The child position through which `site` lies below the ancestor with the given path. -/
def positionIn? (scope site : Site) : Option Nat :=
  if scope.path.length < site.path.length then
    let steps := site.path.take (site.path.length - scope.path.length)
    if site.path.drop steps.length = scope.path then steps.getLast? else none
  else none

/-- The site whose children are the statements: the attached block of a call, else the site. -/
def bodySite (scope : Site) : Site :=
  match scope.node with
  | .call receiver name args (some attached) loc =>
    ⟨attached, (.call receiver name args (some attached) loc,
      receiver.toList.length + args.length) :: scope.above⟩
  | _ => scope

/-- The sites of the statements of a scope. -/
def statements (scope : Site) : List Site :=
  scope.node.body.zipIdx.map fun entry =>
    ⟨entry.1, (scope.bodySite.node, entry.2 + scope.bodySite.node.bodyOffset) ::
      scope.bodySite.above⟩

theorem map_node_statements (scope : Site) : scope.statements.map (·.node) = scope.node.body := by
  simp [statements, List.zipIdx_map_fst, Function.comp_def]

end Site

end SpecLint.Code
