import SpecLint.Proofs.Code.Position
import SpecLint.Routine.Visibility
import Mathlib.Algebra.BigOperators.Group.List.Basic
import Mathlib.Algebra.GroupWithZero.Nat
import Mathlib.Data.List.Perm.Subperm

/-!
# Public routines and their units

The public routines of a unit are counted in a walk of their own, which starts at the declaration
and leaves out what belongs to units further in. The routines of a file are collected in one walk
from the top. A site has at most one nearest class or module around it, so the counts of the units
share out the routines of the file.

## Main result

`countPublic_partition`: a unit counts exactly those public routines of the file that it declares.
No routine is counted for two units, and none is left out but those outside of every unit.
-/
namespace SpecLint

open SpecLint.Code

namespace Code.Site

/-- The walk of a part is a part of the walk. -/
theorem walk_sublist {start site : Site} (inside : site ∈ start.walk) :
    site.walk.Sublist start.walk := by
  obtain ⟨node, above⟩ := start
  induction node using Node.induction generalizing above with
  | step node ih =>
    have whole := walk_eq ⟨node, above⟩
    rw [whole] at inside ⊢
    rcases List.mem_cons.mp inside with rfl | below
    · rw [← whole]
    · obtain ⟨child, isChild, within⟩ := List.mem_flatMap.mp below
      obtain ⟨position, found, frames⟩ := mem_children.mp isChild
      -- the part lies in the walk of one child, and that is a stretch of the whole
      have part := ih child.node (List.mem_of_getElem? found) child.above within
      have stretch : child.walk.Sublist ((children ⟨node, above⟩).flatMap walk) :=
        List.sublist_flatten_of_mem (List.mem_map_of_mem isChild)
      exact (part.trans stretch).cons _

/-- What encloses a site meets it in its walk. -/
theorem mem_walk_of_encloses {tree : Node} {site outer : Site} (inside : site ∈ (root tree).walk)
    (encloses : outer ∈ site.ancestors) : site ∈ outer.walk := by
  obtain ⟨inner, position, frames⟩ := mem_ancestors.mp encloses
  rw [mem_walk_root, frames, leads_append] at inside
  obtain ⟨middle, outside, leads⟩ := inside
  -- the way down passes the enclosing site and goes on from one of its children
  refine mem_walk.mpr ⟨inner ++ [(outer.node, position)], by simp [frames], ?_⟩
  exact (leads_concat ..).mpr ⟨rfl, middle, outside.1, leads⟩

end Code.Site

namespace Routine

/-! ### The routines of a unit -/

/-- Whether a routine is a public one of instances. -/
def isPublicInstance (patterns : List Pattern) (routine : Routine) : Bool :=
  routine.scope = .ofInstance && routine.isPublic patterns

/-- Whether the unit of a routine is declared at a site. -/
def isDeclaredBy (declaration : Site) (routine : Routine) : Bool :=
  (routine.unit.bind (·.declaration)).any (·.same declaration)

/-- Whether a routine stands outside of every class and module. -/
def isUnenclosed (routine : Routine) : Bool := (CodeUnit.enclosing? routine.site).isNone

/-- The unit of a routine is declared at the class or module nearest to it. -/
theorem isDeclaredBy_ofSite (path : Option Path) (declaration site : Site) :
    isDeclaredBy declaration (ofSite path site) =
      (CodeUnit.enclosing? site).any (·.same declaration) := by
  simp only [isDeclaredBy, ofSite, CodeUnit.owning?]
  cases CodeUnit.enclosing? site with
  | some found => rfl
  | none => cases path.bind CodeUnit.inferredName? <;> rfl

variable {tree : Node} {declaration site : Site}

theorem mem_declarations_of_enclosing (inside : site ∈ (Site.root tree).walk)
    (found : CodeUnit.enclosing? site = some declaration) :
    declaration ∈ CodeUnit.declarations (Site.root tree) := by
  have isUnit : declaration.node.isUnit = true :=
    @List.find?_some _ (fun site : Site => site.node.isUnit) _ _ found
  exact List.mem_filter.mpr
    ⟨Site.mem_walk_of_mem_ancestors inside (List.mem_of_find?_eq_some found), isUnit⟩

/-- A declaration at the place of the nearest one is the nearest one. -/
theorem enclosing?_of_same (inside : site ∈ (Site.root tree).walk)
    (declared : declaration ∈ CodeUnit.declarations (Site.root tree))
    (same : (CodeUnit.enclosing? site).any (·.same declaration) = true) :
    CodeUnit.enclosing? site = some declaration := by
  obtain ⟨found, enclosed, paths⟩ := (Option.any_eq_true _ _).mp same
  have member := (List.mem_filter.mp (mem_declarations_of_enclosing inside enclosed)).1
  -- within a tree a path stands for one site
  rw [enclosed, Site.eq_of_path_eq member (List.mem_filter.mp declared).1 (beq_iff_eq.mp paths)]

/-- The walk from a declaration meets what belongs to it in the order of the file. -/
theorem filter_walk_declaration (declared : declaration ∈ CodeUnit.declarations (Site.root tree))
    {test : Site → Bool}
    (owned : ∀ site, test site = true →
      (CodeUnit.enclosing? site).any (·.same declaration) = true) :
    declaration.walk.filter test = (Site.root tree).walk.filter test := by
  have inTree := (List.mem_filter.mp declared).1
  have part : (declaration.walk.filter test).Sublist ((Site.root tree).walk.filter test) :=
    (Site.walk_sublist inTree).filter test
  have whole : (Site.root tree).walk.filter test ⊆ declaration.walk.filter test := by
    intro site member
    obtain ⟨inside, passes⟩ := List.mem_filter.mp member
    have found := enclosing?_of_same inside declared (owned site passes)
    have within := Site.mem_walk_of_encloses inside (List.mem_of_find?_eq_some found)
    exact List.mem_filter.mpr ⟨within, passes⟩
  have once : ((Site.root tree).walk.filter test).Nodup := (Site.nodup_walk _).filter test
  exact part.eq_of_length_le (List.subperm_of_subset once whole).length_le

/-- A routine of a declared unit does not depend on the name of the file. -/
theorem ofSite_of_enclosed (path other : Option Path)
    (enclosed : (CodeUnit.enclosing? site).any (·.same declaration) = true) :
    ofSite path site = ofSite other site := by
  obtain ⟨found, here, _⟩ := (Option.any_eq_true _ _).mp enclosed
  rw [ofSite, ofSite, CodeUnit.owning?_of_enclosing path here,
    CodeUnit.owning?_of_enclosing other here]

/-- A unit counts the public routines of the file that it declares, in the order of the file. -/
theorem publicRoutines_eq_filter (patterns : List Pattern) (path : Option Path)
    (declared : declaration ∈ CodeUnit.declarations (Site.root tree)) :
    CodeUnit.publicRoutines patterns declaration =
      (collect (Site.root tree) path).filter fun routine =>
        isDeclaredBy declaration routine && isPublicInstance patterns routine := by
  -- both are made of the sites that pass the same test
  let test (site : Site) : Bool := site.node.isRoutine &&
    ((CodeUnit.enclosing? site).any (·.same declaration) &&
      isPublicInstance patterns (ofSite path site))
  have counted : CodeUnit.publicRoutines patterns declaration =
      (declaration.walk.filter test).map (ofSite path) := by
    have named : (declaration.walk.filter test).map (ofSite path) =
        (declaration.walk.filter test).map (ofSite none) := by
      apply List.map_congr_left
      intro site member
      have passes := (List.mem_filter.mp member).2
      simp only [test, Bool.and_eq_true] at passes
      exact ofSite_of_enclosed path none passes.2.1
    rw [named, CodeUnit.publicRoutines, collect, List.filter_map, List.filter_filter]
    congr 2
    funext site
    -- scope and visibility are read off the site alone
    have alike : isPublicInstance patterns (ofSite path site) =
        (decide ((ofSite none site).scope = .ofInstance) &&
          (ofSite none site).isPublic patterns) := rfl
    simp only [test, alike, Function.comp_apply, Bool.decide_and, Bool.decide_eq_true]
    ac_rfl
  have collected : ((collect (Site.root tree) path).filter fun routine =>
      isDeclaredBy declaration routine && isPublicInstance patterns routine) =
        ((Site.root tree).walk.filter test).map (ofSite path) := by
    rw [collect, List.filter_map, List.filter_filter]
    simp only [Function.comp_def, isDeclaredBy_ofSite, test, Bool.and_comm]
  rw [counted, collected, filter_walk_declaration declared]
  intro site passes
  simp only [test, Bool.and_eq_true] at passes
  exact passes.2.1

/-! ### Counting by owner -/

theorem countP_eq_sum {β : Type} (test : β → Bool) (items : List β) :
    items.countP test = (items.map fun item => if test item then 1 else 0).sum := by
  induction items with
  | nil => rfl
  | cons item items ih => rw [List.countP_cons, ih, List.map_cons, List.sum_cons, Nat.add_comm]

/-- What all owners own together is every item, counted once for each of its owners. -/
theorem sum_countP {α β : Type} (owners : List α) (items : List β) (owns : α → β → Bool) :
    (owners.map fun owner => items.countP (owns owner)).sum =
      (items.map fun item => owners.countP fun owner => owns owner item).sum := by
  induction owners with
  | nil => simp
  | cons owner owners ih =>
    simp only [List.map_cons, List.sum_cons, ih, List.countP_cons, List.sum_map_add]
    rw [countP_eq_sum (owns owner), Nat.add_comm]

/-- No two declarations of a tree stand at the same place. -/
theorem nodup_paths_declarations (tree : Node) :
    ((CodeUnit.declarations (Site.root tree)).map Site.path).Nodup := by
  have once : (CodeUnit.declarations (Site.root tree)).Nodup := (Site.nodup_walk _).filter _
  refine List.Nodup.map_on ?_ once
  intro left inLeft right inRight same
  exact Site.eq_of_path_eq (List.mem_filter.mp inLeft).1 (List.mem_filter.mp inRight).1 same

/-- A routine of a file has one declared unit, or none if it stands outside of all. -/
theorem countP_isDeclaredBy (path : Option Path) (inside : site ∈ (Site.root tree).walk) :
    (CodeUnit.declarations (Site.root tree)).countP (fun declaration =>
      isDeclaredBy declaration (ofSite path site)) =
        if isUnenclosed (ofSite path site) then 0 else 1 := by
  have atSite : CodeUnit.enclosing? (ofSite path site).site = CodeUnit.enclosing? site := rfl
  simp only [isDeclaredBy_ofSite, isUnenclosed, atSite]
  cases enclosed : CodeUnit.enclosing? site with
  | none => simp
  | some nearest =>
    -- the nearest declaration is the only one of the tree at its place
    have declared := mem_declarations_of_enclosing inside enclosed
    have single := List.count_eq_one_of_mem (nodup_paths_declarations tree)
      (List.mem_map_of_mem (f := Site.path) declared)
    rw [List.count, List.countP_map] at single
    simpa [Site.same, Function.comp_def, BEq.comm (a := nearest.path)] using single

/-- The public routines of instances that a unit declares are counted in a walk from its declaration
as they are listed for the file. All counts together, and the public routines outside of every unit,
are the public routines of the file. -/
theorem countPublic_partition (tree : Node) (patterns : List Pattern) (path : Option Path) :
    (∀ declaration ∈ CodeUnit.declarations (Site.root tree),
      CodeUnit.publicRoutines patterns declaration =
          (collect (Site.root tree) path).filter (fun routine =>
            isDeclaredBy declaration routine && isPublicInstance patterns routine) ∧
        ((CodeUnit.ofDeclaration declaration).countPublic patterns).1 =
          (collect (Site.root tree) path).countP (fun routine =>
            isDeclaredBy declaration routine && isPublicInstance patterns routine)) ∧
    ((CodeUnit.declarations (Site.root tree)).map fun declaration =>
        ((CodeUnit.ofDeclaration declaration).countPublic patterns).1).sum +
      (collect (Site.root tree) path).countP (fun routine =>
        isUnenclosed routine && isPublicInstance patterns routine) =
      (collect (Site.root tree) path).countP (isPublicInstance patterns) := by
  have counts : ∀ declaration ∈ CodeUnit.declarations (Site.root tree),
      ((CodeUnit.ofDeclaration declaration).countPublic patterns).1 =
        (collect (Site.root tree) path).countP (fun routine =>
          isDeclaredBy declaration routine && isPublicInstance patterns routine) := by
    intro declaration declared
    rw [List.countP_eq_length_filter, ← publicRoutines_eq_filter patterns path declared]
    rfl
  refine ⟨fun declaration declared =>
    ⟨publicRoutines_eq_filter patterns path declared, counts declaration declared⟩, ?_⟩
  rw [List.map_congr_left counts, sum_countP, countP_eq_sum, ← List.sum_map_add, countP_eq_sum]
  -- both sides are now sums over the routines, to which each contributes the same
  congr 1
  apply List.map_congr_left
  intro routine member
  obtain ⟨site, walked, rfl⟩ := List.mem_map.mp member
  have inside := (List.mem_filter.mp walked).1
  cases isPublicInstance patterns (ofSite path site) with
  | false => simp
  | true =>
    simp only [Bool.and_true, countP_isDeclaredBy path inside, if_true]
    split <;> rfl

/-! A class with a method of its own, a module inside it with another, a method of the type that
does not count, and a method outside of both. -/

def shelfLoc : Option Location := some ⟨1, 0, 1, 0⟩

def shelfModule : Node := .moduleDef "Labels" [.methodDef "label" [] shelfLoc] none

def shelfClass : Node :=
  .classDef "Shelf" none
    [.methodDef "place" [] shelfLoc, shelfModule,
      .singletonClass (.selfRef none) [.methodDef "build" [] shelfLoc] none] none

def shelfProgram : Node := .program [shelfClass, .methodDef "sweep" [] shelfLoc] none

def shelfSite : Site := ⟨shelfClass, [(shelfProgram, 0)]⟩

theorem countPublic_partition_shelf :
    shelfSite ∈ CodeUnit.declarations (Site.root shelfProgram) ∧
      ((CodeUnit.ofDeclaration shelfSite).countPublic []).1 = 1 ∧
      (collect (Site.root shelfProgram) none).countP (fun routine =>
        isDeclaredBy shelfSite routine && isPublicInstance [] routine) = 1 := by
  have declared : shelfSite ∈ CodeUnit.declarations (Site.root shelfProgram) :=
    List.mem_filter.mpr ⟨Site.mem_walk_root.mpr ⟨rfl, rfl⟩, rfl⟩
  have count : ((CodeUnit.ofDeclaration shelfSite).countPublic []).1 = 1 := by decide +kernel
  obtain ⟨owned, _⟩ := countPublic_partition shelfProgram [] none
  exact ⟨declared, count, (owned shelfSite declared).2.symm.trans count⟩

end Routine

end SpecLint
