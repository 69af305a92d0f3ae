import SpecLint.Proofs.Code.Position
import Mathlib.Logic.Function.Basic

/-!
# Walks with a stack, and links upwards

A tree is walked without recursion: what is pending is a stack, the next node is taken from its top,
and its children are pushed in reverse, so that the first of them comes on top. While such a walk
goes on, each node is linked to the one that has it among its children. From then on the nodes
around a node are found by following links until there is none.

## Main result

`traverse_linkParents`: the walk with a stack is the recursive one, and the links lead from every
node of the tree up to its root, and nowhere else.

## Proof strategy

What is pending on the stack amounts to the recursive walks of its nodes one after the other. A link
is set once for every node that has the other one among its children, and inside one tree there is
only one; so it does not matter when it is set and what it was before.
-/
namespace SpecLint.Code.Site

/-! ### Walking with a stack -/

/-- Put sites onto a stack one after the other. The top stands first. -/
def push (stack sites : List Site) : List Site := sites.foldl (fun stack site => site :: stack) stack

theorem push_reverse (stack sites : List Site) : push stack sites.reverse = sites ++ stack := by
  rw [push, List.foldl_flip_cons_eq_append', List.reverse_reverse]

/-- The sites that are visited from a stack, in the order of the visits. -/
def traverse : List Site → List Site
  | [] => []
  | site :: stack => site :: traverse (push stack site.children.reverse)
termination_by stack => (stack.flatMap walk).length
decreasing_by
  rw [push_reverse, List.flatMap_append, List.flatMap_cons, walk_eq]
  simp

/-- A stack amounts to the walks of what is on it. -/
theorem traverse_eq_flatMap (stack : List Site) : traverse stack = stack.flatMap walk := by
  fun_induction traverse stack with
  | case1 => rfl
  | case2 site stack ih =>
    rw [ih, push_reverse, List.flatMap_append, List.flatMap_cons, walk_eq, List.cons_append]

theorem traverse_singleton (site : Site) : traverse [site] = site.walk := by
  rw [traverse_eq_flatMap, List.flatMap_singleton]

/-- What is visited after the site itself. -/
def descendants (site : Site) : List Site := (traverse [site]).tail

theorem descendants_eq (site : Site) : site.descendants = site.children.flatMap walk := by
  rw [descendants, traverse_singleton, walk_eq, List.tail_cons]

theorem walk_eq_cons_descendants (site : Site) : site.walk = site :: site.descendants := by
  rw [descendants_eq, walk_eq]

/-! ### Blocks -/

/-- The walk from a site of a walk is a part of that walk. -/
theorem isInfix_walk {start site : Site} (inside : site ∈ start.walk) : site.walk <:+: start.walk := by
  induction start using Site.induction with
  | step start ih =>
    rw [walk_eq, List.mem_cons, List.mem_flatMap] at inside
    rcases inside with rfl | ⟨child, isChild, deeper⟩
    · exact List.infix_refl _
    · -- the walk of the child stands between those of the children around it
      obtain ⟨front, back, around⟩ := List.append_of_mem isChild
      rw [walk_eq start, around, List.flatMap_append, List.flatMap_cons]
      apply (ih child isChild deeper).trans
      exact ⟨start :: front.flatMap walk, back.flatMap walk, by simp⟩

/-- What stands below a site is what the site encloses. -/
theorem mem_descendants_iff {tree : Node} {site inner : Site}
    (inside : inner ∈ (root tree).walk) (above : site ∈ (root tree).walk) :
    inner ∈ site.descendants ↔ site ∈ inner.ancestors := by
  rw [descendants_eq, List.mem_flatMap]
  constructor
  · rintro ⟨child, isChild, deeper⟩
    exact mem_ancestors_of_mem_walk isChild deeper
  · intro encloses
    have deeper : inner ∈ site.walk := by
      obtain ⟨between, position, frames⟩ := mem_ancestors.mp encloses
      rw [mem_walk_root] at inside above
      rw [frames, ← List.singleton_append, ← List.append_assoc, leads_append] at inside
      obtain ⟨middle, upper, lower⟩ := inside
      obtain ⟨-, rfl⟩ := leads_unique upper above rfl
      exact mem_walk.mpr ⟨between ++ [(site.node, position)], by simp [frames], lower⟩
    rw [walk_eq, List.mem_cons, List.mem_flatMap] at deeper
    rcases deeper with rfl | below
    · exact absurd (depth_lt_of_mem_ancestors encloses) (Nat.lt_irrefl _)
    · exact below

/-! ### Links -/

/-- The links of some sites to what encloses them. A site is known by its path. -/
abbrev Links := List Nat → Option Site

/-- Link the children of a site to it. -/
def linkChildren (links : Links) (site : Site) : Links :=
  site.children.foldl (fun links child => Function.update links child.path (some site)) links

/-- Link all that a walk from the root visits. -/
def linkParents (links : Links) (root : Site) : Links :=
  (traverse [root]).foldl linkChildren (Function.update links root.path none)

/-- The sites that are found by following the links from a site until there is none. -/
inductive Climbs (links : Links) : Site → List Site → Prop
  | top {site : Site} (unlinked : links site.path = none) : Climbs links site []
  | up {site parent : Site} {further : List Site} (linked : links site.path = some parent)
      (climbs : Climbs links parent further) : Climbs links site (parent :: further)

section Loops

variable {α : Type} {step : Links → α → Links} {path : List Nat} {items : List α} {links : Links}

theorem foldl_keeps (kept : ∀ item ∈ items, ∀ links, step links item path = links path) :
    items.foldl step links path = links path := by
  induction items generalizing links with
  | nil => rfl
  | cons item items ih =>
    obtain ⟨here, later⟩ := List.forall_mem_cons.mp kept
    rw [List.foldl_cons, ih later, here]

/-- A link that some steps of a loop set, all of them to the same, and the other steps keep. -/
theorem foldl_sets {value : Option Site}
    (each : ∀ item ∈ items, (∀ links, step links item path = value) ∨
      ∀ links, step links item path = links path)
    (some : ∃ item ∈ items, ∀ links, step links item path = value) :
    items.foldl step links path = value := by
  induction items generalizing links with
  | nil => simp at some
  | cons item items ih =>
    obtain ⟨-, laterEach⟩ := List.forall_mem_cons.mp each
    rw [List.foldl_cons]
    by_cases later : ∃ item ∈ items, ∀ links, step links item path = value
    · exact ih laterEach later
    · -- the last step that sets the link is this one
      have kept : ∀ item ∈ items, ∀ links, step links item path = links path := fun other member =>
        (laterEach other member).resolve_left fun sets => later ⟨other, member, sets⟩
      obtain ⟨setter, isStep, sets⟩ := some
      rcases List.mem_cons.mp isStep with rfl | isLater
      · rw [foldl_keeps kept, sets]
      · exact absurd ⟨setter, isLater, sets⟩ later

end Loops

variable {tree : Node} {site parent child : Site} {path : List Nat}

theorem linkChildren_other (others : ∀ child ∈ site.children, child.path ≠ path) (links : Links) :
    linkChildren links site path = links path :=
  foldl_keeps fun child isChild _ => Function.update_of_ne (others child isChild).symm _ _

theorem linkChildren_child (isChild : child ∈ site.children) (links : Links) :
    linkChildren links site child.path = some site := by
  have sets {other : Site} (same : other.path = child.path) (links : Links) :
      Function.update links other.path (some site) child.path = some site := by
    rw [same, Function.update_self]
  apply foldl_sets
  · intro other _
    by_cases same : other.path = child.path
    · exact .inl (sets same)
    · exact .inr fun links => Function.update_of_ne (Ne.symm same) _ _
  · exact ⟨child, isChild, sets rfl⟩

theorem path_of_mem_children (isChild : child ∈ site.children) :
    ∃ position, child.path = position :: site.path := by
  obtain ⟨position, -, frames⟩ := mem_children.mp isChild
  exact ⟨position, by rw [path, frames, List.map_cons, path]⟩

/-- Inside one tree, sites that have children with the same path are the same. -/
theorem eq_of_path_children_eq {other nephew : Site} (inside : site ∈ (root tree).walk)
    (otherInside : other ∈ (root tree).walk) (isChild : child ∈ site.children)
    (isNephew : nephew ∈ other.children) (same : nephew.path = child.path) : other = site := by
  obtain ⟨position, above⟩ := path_of_mem_children isChild
  obtain ⟨position', above'⟩ := path_of_mem_children isNephew
  rw [above, above', List.cons.injEq] at same
  exact eq_of_path_eq otherInside inside same.2

theorem linkParents_root (before : Links) (tree : Node) :
    linkParents before (root tree) (root tree).path = none := by
  rw [linkParents, foldl_keeps, Function.update_self]
  intro site _ links
  apply linkChildren_other
  intro child isChild same
  obtain ⟨position, above⟩ := path_of_mem_children isChild
  rw [above] at same
  cases same

theorem linkParents_child (before : Links) (inside : site ∈ (root tree).walk)
    (isChild : child ∈ site.children) :
    linkParents before (root tree) child.path = some site := by
  rw [linkParents, traverse_singleton]
  apply foldl_sets
  · intro other otherInside
    by_cases shares : ∃ nephew ∈ other.children, nephew.path = child.path
    · obtain ⟨nephew, isNephew, same⟩ := shares
      obtain rfl := eq_of_path_children_eq inside otherInside isChild isNephew same
      exact .inl (linkChildren_child isChild)
    · exact .inr (linkChildren_other fun nephew isNephew same => shares ⟨nephew, isNephew, same⟩)
  · exact ⟨site, inside, linkChildren_child isChild⟩

/-! ### Around a node -/

/-- What is not the root of its tree is a child. -/
theorem root_or_child (inside : site ∈ (root tree).walk) :
    site = root tree ∨ ∃ parent ∈ (root tree).walk, site ∈ parent.children := by
  obtain ⟨node, above⟩ := site
  rw [mem_walk_root] at inside
  cases above with
  | nil => exact .inl (congrArg (Site.mk · []) inside)
  | cons frame above =>
    obtain ⟨found, leads⟩ := inside
    exact .inr ⟨⟨frame.1, above⟩, mem_walk_root.mpr leads, mem_children.mpr ⟨frame.2, found, rfl⟩⟩

/-- The links agree with the frames of the sites. -/
theorem linkParents_eq_parent? (before : Links) (inside : site ∈ (root tree).walk) :
    linkParents before (root tree) site.path = site.parent? := by
  rcases root_or_child inside with rfl | ⟨parent, parentInside, isChild⟩
  · rw [linkParents_root]
    rfl
  · obtain ⟨position, -, frames⟩ := mem_children.mp isChild
    rw [linkParents_child before parentInside isChild, parent?, frames]

theorem Climbs.unique {links : Links} {found others : List Site} (first : Climbs links site found)
    (second : Climbs links site others) : others = found := by
  induction first generalizing others with
  | top unlinked =>
    cases second with
    | top => rfl
    | up linked => cases unlinked.symm.trans linked
  | up linked climbs ih =>
    cases second with
    | top unlinked => cases linked.symm.trans unlinked
    | up linked' climbs' =>
      obtain rfl := Option.some.inj (linked.symm.trans linked')
      rw [ih climbs']

/-- Following the links from a site of the tree comes to an end, with all that encloses the site. -/
theorem climbs_ancestors (before : Links) (inside : site ∈ (root tree).walk) :
    Climbs (linkParents before (root tree)) site site.ancestors := by
  have linked := linkParents_eq_parent? before inside
  obtain ⟨node, above⟩ := site
  -- along the frames, from the site outwards
  induction above generalizing node with
  | nil => exact .top linked
  | cons frame above ih =>
    have parentInside : ⟨frame.1, above⟩ ∈ (root tree).walk :=
      mem_walk_root.mpr (mem_walk_root.mp inside).2
    exact .up linked (ih frame.1 parentInside (linkParents_eq_parent? before parentInside))

theorem getLast?_ancestors (inside : site ∈ (root tree).walk) :
    (site :: site.ancestors).getLast? = some (root tree) := by
  obtain ⟨node, above⟩ := site
  rw [mem_walk_root] at inside
  induction above generalizing node with
  | nil => exact congrArg (fun node => some (Site.mk node [])) inside
  | cons frame above ih => exact ih frame.1 inside.2

/-- A site stands in the walk before its children. -/
theorem sublist_walk_of_mem_children {start : Site} (inside : site ∈ start.walk)
    (isChild : child ∈ site.children) : [site, child].Sublist start.walk := by
  apply List.Sublist.trans _ (isInfix_walk inside).sublist
  rw [walk_eq]
  apply List.Sublist.cons_cons
  rw [List.singleton_sublist, List.mem_flatMap]
  exact ⟨child, isChild, walk_eq child ▸ List.mem_cons_self⟩

/-- The walk with a stack visits a site and then what the walks of its children visit, in order. In
the walk of a tree every site of the tree occurs, and none twice; all that a site encloses, and
nothing else, stands in one block behind it. Whatever links there were before, afterwards the root
has none. Every other site is linked to the only one that has it among its children, which stands
earlier in the walk. Following the links comes to an end at the root, after as many steps as the
site is deep. -/
theorem traverse_linkParents (tree : Node) (before : Links) :
    let walk := traverse [root tree]
    let links := linkParents before (root tree)
    (∀ site, traverse [site] = site.walk ∧
        site.walk = site :: site.children.flatMap fun child => traverse [child]) ∧
      (∀ site, site ∈ walk ↔ Leads tree site.above site.node) ∧ walk.Nodup ∧
      links (root tree).path = none ∧
      ∀ site ∈ walk,
        site :: site.descendants <:+: walk ∧
        (∀ inner ∈ walk, inner ∈ site.descendants ↔ site ∈ inner.ancestors) ∧
        (site ≠ root tree → ∃ parent, links site.path = some parent ∧
          [parent, site].Sublist walk ∧ ∀ other ∈ walk, site ∈ other.children ↔ other = parent) ∧
        ∃ chain, (∀ found, Climbs links site found ↔ found = chain) ∧
          (site :: chain).getLast? = some (root tree) ∧ chain.length = site.depth := by
  intro walk links
  have visited : walk = (root tree).walk := traverse_singleton _
  rw [visited]
  refine ⟨fun site => ⟨traverse_singleton site, ?_⟩, fun site => mem_walk_root, nodup_walk _,
    linkParents_root before tree, fun site inside => ⟨?_, ?_, ?_, ?_⟩⟩
  · simp only [traverse_singleton]
    exact walk_eq site
  · rw [← walk_eq_cons_descendants]
    exact isInfix_walk inside
  · exact fun inner innerInside => mem_descendants_iff innerInside inside
  · intro below
    obtain ⟨parent, parentInside, isChild⟩ := (root_or_child inside).resolve_left below
    refine ⟨parent, linkParents_child before parentInside isChild,
      sublist_walk_of_mem_children parentInside isChild, fun other otherInside => ?_⟩
    constructor
    · exact fun isOther => eq_of_path_children_eq parentInside otherInside isChild isOther rfl
    · rintro rfl
      exact isChild
  · have climbs := climbs_ancestors before inside
    refine ⟨site.ancestors, fun found => ⟨climbs.unique, ?_⟩, getLast?_ancestors inside,
      length_ancestors site⟩
    rintro rfl
    exact climbs

/-! A class with a superclass, so that its method is the second child. -/

def workerMethod : Node := .methodDef "run" [.identifier "job" none] none

def workerClass : Node := .classDef "Worker" (some (.const "Base" none)) [workerMethod] none

def workerProgram : Node := .program [workerClass] none

def workerClassSite : Site := ⟨workerClass, [(workerProgram, 0)]⟩

def workerMethodSite : Site := ⟨workerMethod, [(workerClass, 1), (workerProgram, 0)]⟩

/-- The method is linked to its class, though it was linked to itself before, and two links lead
from it up to the program. -/
theorem traverse_linkParents_worker :
    let links := linkParents (fun _ => some workerMethodSite) (root workerProgram)
    workerMethodSite ∈ traverse [root workerProgram] ∧
      workerMethodSite ≠ root workerProgram ∧
      links workerMethodSite.path = some workerClassSite ∧
      ∃ chain, Climbs links workerMethodSite chain ∧ chain.length = 2 := by
  intro links
  obtain ⟨-, members, -, -, each⟩ :=
    traverse_linkParents workerProgram fun _ => some workerMethodSite
  have classInside := (members workerClassSite).mpr ⟨rfl, rfl⟩
  have inside := (members workerMethodSite).mpr ⟨rfl, rfl, rfl⟩
  have below : workerMethodSite ≠ root workerProgram :=
    fun same => Nat.succ_ne_zero 1 (congrArg depth same)
  obtain ⟨-, -, linked, chain, climbs, -, deep⟩ := each workerMethodSite inside
  obtain ⟨parent, isLinked, -, only⟩ := linked below
  have isChild : workerMethodSite ∈ workerClassSite.children := mem_children.mpr ⟨1, rfl, rfl⟩
  obtain rfl := (only workerClassSite classInside).mp isChild
  exact ⟨inside, below, isLinked, chain, (climbs chain).mpr rfl, deep⟩

end SpecLint.Code.Site
