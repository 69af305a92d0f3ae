import SpecLint.Proofs.Code.Position
import SpecLint.Spec.Headers
import Mathlib.Algebra.BigOperators.Group.List.Basic
import Mathlib.Algebra.GroupWithZero.Nat

/-!
# Outermost headers

Headers are collected in one walk over the tree. A header is passed over if it lies inside one that
is collected already. As a walk comes to a node before it comes to what lies inside it, this leaves
exactly the headers that lie inside no other one, and what stands beside a header has no say in it.

## Main result

`headerSites_are_outermost`: the headers found are the outermost ones with the titles, each once and
in the order of a walk; all others lie inside them. With the titles of two lists at once a tree has
at most the scenarios that it has with the first and with the second.

## Proof strategy

The walk from a site is followed by induction over the children, with any headers collected before.
Whatever is collected passes the test. So where nothing around the site passes, nothing around it is
collected, and the walk adds the outermost sites from there on. Where the site itself passes, all
that the walk still visits has it as an ancestor.
-/
namespace SpecLint.Spec

open SpecLint.Code

/-! ### The walk -/

/-- Whether a site passes a test and lies inside no site that does. -/
def isOutermost (test : Node → Bool) (site : Site) : Bool :=
  test site.node && !site.ancestors.any (test ·.node)

theorem isOutermost_iff {test : Node → Bool} {site : Site} :
    isOutermost test site = true ↔
      test site.node = true ∧ ∀ outer ∈ site.ancestors, test outer.node = false := by
  simp [isOutermost]

section Walk

variable {test : Node → Bool} {tree : Node} {taken : List Site}

/-- What is collected is part of the tree and passes. -/
def Collected (test : Node → Bool) (tree : Node) (taken : List Site) : Prop :=
  ∀ site ∈ taken, site ∈ (Site.root tree).walk ∧ test site.node = true

theorem Collected.append_filter (collected : Collected test tree taken) {site : Site}
    (inside : site ∈ (Site.root tree).walk) :
    Collected test tree (taken ++ site.walk.filter (isOutermost test)) := by
  intro other member
  rcases List.mem_append.mp member with before | added
  · exact collected other before
  · obtain ⟨visited, outermost⟩ := List.mem_filter.mp added
    exact ⟨Site.mem_walk_trans inside visited, (isOutermost_iff.mp outermost).1⟩

/-- Where nothing around a site passes, the site is taken exactly if it passes. -/
theorem takeOutermost_of_free {site : Site} (inside : site ∈ (Site.root tree).walk)
    (free : ∀ outer ∈ site.ancestors, test outer.node = false)
    (collected : Collected test tree taken) :
    takeOutermost test taken site = if test site.node then taken ++ [site] else taken := by
  have unknown : site.ancestors.any (fun outer => taken.any outer.same) = false := by
    simp only [List.any_eq_false, Bool.not_eq_true]
    intro outer encloses other isTaken
    obtain ⟨within, passes⟩ := collected other isTaken
    rw [Site.same, beq_eq_false_iff_ne]
    intro path
    -- sites of one tree are told apart by their paths
    have equal := Site.eq_of_path_eq (Site.mem_walk_of_mem_ancestors inside encloses) within path
    rw [← equal, free outer encloses] at passes
    cases passes
  simp [takeOutermost, unknown]

/-- What lies inside a site that is taken is passed over. -/
theorem foldl_takeOutermost_of_inside {sites : List Site}
    (inside : ∀ site ∈ sites, ∃ outer ∈ site.ancestors, outer ∈ taken) :
    sites.foldl (takeOutermost test) taken = taken := by
  induction sites with
  | nil => rfl
  | cons site sites ih =>
    obtain ⟨⟨outer, encloses, isTaken⟩, rest⟩ := List.forall_mem_cons.mp inside
    have known : (site.ancestors.any fun outer => taken.any outer.same) = true := by
      simp only [List.any_eq_true]
      exact ⟨outer, encloses, outer, isTaken, by simp [Site.same]⟩
    have passed : takeOutermost test taken site = taken := by simp [takeOutermost, known]
    rw [List.foldl_cons, passed, ih rest]

/-- Walks one after the other add what each of them adds. -/
theorem foldl_takeOutermost_flatMap {sites : List Site}
    (inside : ∀ site ∈ sites, site ∈ (Site.root tree).walk)
    (adds : ∀ site ∈ sites, ∀ {taken : List Site}, Collected test tree taken →
      site.walk.foldl (takeOutermost test) taken = taken ++ site.walk.filter (isOutermost test))
    (collected : Collected test tree taken) :
    (sites.flatMap Site.walk).foldl (takeOutermost test) taken =
      taken ++ (sites.flatMap Site.walk).filter (isOutermost test) := by
  induction sites generalizing taken with
  | nil => simp
  | cons site sites ih =>
    obtain ⟨here, elsewhere⟩ := List.forall_mem_cons.mp inside
    obtain ⟨addsHere, addsElsewhere⟩ := List.forall_mem_cons.mp adds
    rw [List.flatMap_cons, List.foldl_append, addsHere collected,
      ih elsewhere addsElsewhere (collected.append_filter here), List.filter_append,
      List.append_assoc]

/-- Where a site passes, nothing further down is outermost. -/
theorem filter_children_of_passes {site : Site} (passes : test site.node = true) :
    (site.children.flatMap Site.walk).filter (isOutermost test) = [] := by
  rw [List.filter_eq_nil_iff]
  intro inner member outermost
  obtain ⟨child, isChild, visited⟩ := List.mem_flatMap.mp member
  have encloses := Site.mem_ancestors_of_mem_walk isChild visited
  have fails := (isOutermost_iff.mp outermost).2 site encloses
  rw [passes] at fails
  cases fails

theorem free_of_mem_children {site child : Site} (isChild : child ∈ site.children)
    (fails : ¬test site.node = true)
    (free : ∀ outer ∈ site.ancestors, test outer.node = false) :
    ∀ outer ∈ child.ancestors, test outer.node = false := by
  rw [Site.ancestors_of_mem_children isChild]
  exact List.forall_mem_cons.mpr ⟨Bool.eq_false_iff.mpr fails, free⟩

/-- A walk adds the outermost sites that it visits, if nothing around its start passes. -/
theorem foldl_takeOutermost_walk {site : Site} (inside : site ∈ (Site.root tree).walk)
    (free : ∀ outer ∈ site.ancestors, test outer.node = false)
    (collected : Collected test tree taken) :
    site.walk.foldl (takeOutermost test) taken =
      taken ++ site.walk.filter (isOutermost test) := by
  induction site using Site.induction generalizing taken with
  | step site ih =>
    rw [Site.walk_eq, List.foldl_cons, takeOutermost_of_free inside free collected]
    split
    next passes =>
      have outermost : isOutermost test site = true := isOutermost_iff.mpr ⟨passes, free⟩
      rw [List.filter_cons_of_pos outermost, filter_children_of_passes passes]
      refine foldl_takeOutermost_of_inside fun inner member => ?_
      obtain ⟨child, isChild, visited⟩ := List.mem_flatMap.mp member
      exact ⟨site, Site.mem_ancestors_of_mem_walk isChild visited, by simp⟩
    next fails =>
      have skipped : ¬isOutermost test site = true := fun outermost =>
        fails (isOutermost_iff.mp outermost).1
      have within : ∀ child ∈ site.children, child ∈ (Site.root tree).walk := fun child isChild =>
        Site.mem_walk_trans inside (Site.mem_walk_of_mem_children isChild)
      rw [List.filter_cons_of_neg skipped]
      exact foldl_takeOutermost_flatMap within
        (fun child isChild _ => ih child isChild (within child isChild)
          (free_of_mem_children isChild fails free)) collected

theorem ancestors_root (tree : Node) : (Site.root tree).ancestors = [] := rfl

/-- The sites found in the walk over a tree are its outermost ones that pass. -/
theorem outermostSites_eq (test : Node → Bool) (tree : Node) :
    outermostSites test tree = (Site.root tree).walk.filter (isOutermost test) := by
  have inside : Site.root tree ∈ (Site.root tree).walk := Site.mem_walk_root.mpr rfl
  have free : ∀ outer ∈ (Site.root tree).ancestors, test outer.node = false := by
    simp [ancestors_root]
  have nothing : Collected test tree [] := by simp [Collected]
  simpa [outermostSites] using foldl_takeOutermost_walk inside free nothing

end Walk

/-! ### The recursion over the nodes -/

/-- The outermost nodes of a subtree that pass a test. -/
def outermost (test : Node → Bool) (node : Node) : List Node :=
  if test node then [node]
  else node.children.attach.flatMap fun child => outermost test child.1
termination_by sizeOf node
decreasing_by exact Node.sizeOf_lt_of_mem_children child.2

theorem outermost_eq (test : Node → Bool) (node : Node) :
    outermost test node =
      if test node then [node] else node.children.flatMap (outermost test) := by
  rw [outermost]
  simp [List.flatMap_subtype]

/-- The nodes of the outermost sites, where nothing around the start passes. -/
theorem map_node_filter_isOutermost {test : Node → Bool} {site : Site}
    (free : ∀ outer ∈ site.ancestors, test outer.node = false) :
    (site.walk.filter (isOutermost test)).map (·.node) = outermost test site.node := by
  induction site using Site.induction with
  | step site ih =>
    rw [Site.walk_eq, outermost_eq]
    split
    next passes =>
      have outermost : isOutermost test site = true := isOutermost_iff.mpr ⟨passes, free⟩
      rw [List.filter_cons_of_pos outermost, filter_children_of_passes passes]
      rfl
    next fails =>
      have skipped : ¬isOutermost test site = true := fun outermost =>
        fails (isOutermost_iff.mp outermost).1
      have rows : ∀ child ∈ site.children,
          ((child.walk.filter (isOutermost test)).map (·.node)) = outermost test child.node :=
        fun child isChild => ih child isChild (free_of_mem_children isChild fails free)
      rw [List.filter_cons_of_neg skipped, List.filter_flatMap, List.map_flatMap,
        List.flatMap_congr rows, ← Site.map_node_children, List.flatMap_map]

theorem findHeaders_eq_outermost (tree : Node) (titles : List String) :
    findHeaders tree titles = outermost (isHeaderTitled titles) tree := by
  have free : ∀ outer ∈ (Site.root tree).ancestors, isHeaderTitled titles outer.node = false := by
    simp [ancestors_root]
  rw [findHeaders, headerSites, outermostSites_eq]
  exact map_node_filter_isOutermost free

/-- All headers found have a block and one of the titles. -/
theorem isHeaderTitled_of_mem_findHeaders {tree header : Node} {titles : List String}
    (member : header ∈ findHeaders tree titles) : isHeaderTitled titles header = true := by
  rw [findHeaders, headerSites, outermostSites_eq] at member
  obtain ⟨site, found, rfl⟩ := List.mem_map.mp member
  exact (isOutermost_iff.mp (List.mem_filter.mp found).2).1

theorem mem_walk_of_mem_findHeaders {tree header : Node} {titles : List String}
    (member : header ∈ findHeaders tree titles) : header ∈ tree.walk := by
  rw [findHeaders, headerSites, outermostSites_eq] at member
  obtain ⟨site, found, rfl⟩ := List.mem_map.mp member
  have visited := List.mem_map_of_mem (List.mem_filter.mp found).1 (f := (·.node))
  rwa [Site.map_node_walk] at visited

/-! ### Scenarios under two lists of titles -/

/-- The scenarios of some headers together. -/
def scenarioSum (headers : List Node) : Nat := (headers.map scenarioCount).sum

@[simp] theorem scenarioSum_nil : scenarioSum [] = 0 := rfl

@[simp] theorem scenarioSum_cons (header : Node) (headers : List Node) :
    scenarioSum (header :: headers) = scenarioCount header + scenarioSum headers :=
  List.sum_cons

@[simp] theorem scenarioSum_append (front back : List Node) :
    scenarioSum (front ++ back) = scenarioSum front + scenarioSum back := by
  simp [scenarioSum]

theorem getD_scenarios (headers : List Node) :
    (scenarios headers).getD 0 = scenarioSum headers := by
  cases headers <;> rfl

theorem scenarioSum_flatMap_le_add {nodes : List Node} {both first second : Node → List Node}
    (each : ∀ node ∈ nodes,
      scenarioSum (both node) ≤ scenarioSum (first node) + scenarioSum (second node)) :
    scenarioSum (nodes.flatMap both) ≤
      scenarioSum (nodes.flatMap first) + scenarioSum (nodes.flatMap second) := by
  induction nodes with
  | nil => exact Nat.le_refl _
  | cons node nodes ih =>
    obtain ⟨here, elsewhere⟩ := List.forall_mem_cons.mp each
    have others := ih elsewhere
    simp only [List.flatMap_cons, scenarioSum_append]
    omega

/-- An outermost node that passes one of two tests is outermost for one of them as well. -/
theorem scenarioSum_outermost_or (first second : Node → Bool) (tree : Node) :
    scenarioSum (outermost (fun node => first node || second node) tree) ≤
      scenarioSum (outermost first tree) + scenarioSum (outermost second tree) := by
  induction tree using Node.induction with
  | step node ih =>
    rw [outermost_eq, outermost_eq first, outermost_eq second]
    by_cases inFirst : first node = true
    · simp [inFirst]
    · by_cases inSecond : second node = true
      · simp [inSecond]
      · simpa [inFirst, inSecond] using scenarioSum_flatMap_le_add ih

theorem isHeaderTitled_append (left right : List String) :
    isHeaderTitled (left ++ right) = fun node =>
      isHeaderTitled left node || isHeaderTitled right node := by
  funext node
  simp only [isHeaderTitled]
  cases hasBlock node <;> cases title? node <;> simp

/-! ### The headers found -/

/-- The node is a call with a block and a header title, and the title is one of those wanted. -/
def TitledHeader (titles : List String) (node : Node) : Prop :=
  ∃ receiver word args attached loc title,
    node = .call receiver word args (some attached) loc ∧ title? node = some title ∧ title ∈ titles

theorem isHeaderTitled_iff {titles : List String} {node : Node} :
    isHeaderTitled titles node = true ↔ TitledHeader titles node := by
  simp only [isHeaderTitled, Bool.and_eq_true, Option.any_eq_true, List.contains_iff_mem]
  constructor
  · rintro ⟨block, title, titled, wanted⟩
    cases node with
    | call receiver word args attached loc =>
      obtain ⟨attached, rfl⟩ := Option.isSome_iff_exists.mp block
      exact ⟨receiver, word, args, attached, loc, title, rfl, titled, wanted⟩
    | _ => cases titled
  · rintro ⟨receiver, word, args, attached, loc, title, rfl, titled, wanted⟩
    exact ⟨rfl, title, titled, wanted⟩

theorem isHeaderTitled_eq_false_iff {titles : List String} {node : Node} :
    isHeaderTitled titles node = false ↔ ¬TitledHeader titles node := by
  rw [← isHeaderTitled_iff, Bool.not_eq_true]

theorem mem_headerSites {tree : Node} {titles : List String} {site : Site} :
    site ∈ headerSites tree titles ↔ site ∈ (Site.root tree).walk ∧ TitledHeader titles site.node ∧
      ∀ outer ∈ site.ancestors, ¬TitledHeader titles outer.node := by
  simp only [headerSites, outermostSites_eq, List.mem_filter, isOutermost_iff, isHeaderTitled_iff,
    isHeaderTitled_eq_false_iff]

/-- A header with a title is found, or a header around it is. -/
theorem exists_mem_headerSites {tree : Node} {titles : List String} {site : Site}
    (inside : site ∈ (Site.root tree).walk) (titled : TitledHeader titles site.node) :
    site ∈ headerSites tree titles ∨
      ∃ outer ∈ headerSites tree titles, outer ∈ site.ancestors := by
  -- a header around it that is itself inside another one lies less deep
  induction depth : site.depth using Nat.strongRecOn generalizing site with
  | ind _ ih =>
    by_cases free : ∀ outer ∈ site.ancestors, ¬TitledHeader titles outer.node
    · exact .inl (mem_headerSites.mpr ⟨inside, titled, free⟩)
    · push Not at free
      obtain ⟨outer, encloses, isTitled⟩ := free
      have shallower := Site.depth_lt_of_mem_ancestors encloses
      right
      rcases ih outer.depth (depth ▸ shallower) (Site.mem_walk_of_mem_ancestors inside encloses)
        isTitled rfl with found | ⟨outermost, found, around⟩
      · exact ⟨outer, found, encloses⟩
      · exact ⟨outermost, found, Site.mem_ancestors_trans around encloses⟩

theorem nodup_paths_headerSites (tree : Node) (titles : List String) :
    ((headerSites tree titles).map Site.path).Nodup := by
  have once : (headerSites tree titles).Nodup := by
    rw [headerSites, outermostSites_eq]
    exact (Site.nodup_walk _).filter _
  refine List.Nodup.map_on (fun left inLeft right inRight same => ?_) once
  exact Site.eq_of_path_eq (mem_headerSites.mp inLeft).1 (mem_headerSites.mp inRight).1 same

theorem countContexts_eq_none_iff {tree : Node} {titles : List String} :
    countContexts tree titles = none ↔
      ∀ site ∈ (Site.root tree).walk, ¬TitledHeader titles site.node := by
  rw [countContexts, scenarios_eq_none_iff, findHeaders, List.map_eq_nil_iff]
  constructor
  · intro nothing site inside titled
    have found := exists_mem_headerSites inside titled
    simp [nothing] at found
  · intro untitled
    refine List.eq_nil_iff_forall_not_mem.mpr fun site found => ?_
    obtain ⟨inside, titled, -⟩ := mem_headerSites.mp found
    exact untitled site inside titled

theorem countContexts_append_le (tree : Node) (left right : List String) :
    (countContexts tree (left ++ right)).getD 0 ≤
      (countContexts tree left).getD 0 + (countContexts tree right).getD 0 := by
  simp only [countContexts, getD_scenarios, findHeaders_eq_outermost, isHeaderTitled_append]
  exact scenarioSum_outermost_or ..

/-- What is found in a tree are the headers with one of the titles that lie inside no other one, in
the order of a walk and none of them twice. So none lies inside another, and a header that is not
found lies inside one that is. There is no count exactly if the tree has no header with one of the
titles, and a second list of titles adds at most the scenarios that it has alone. -/
theorem headerSites_are_outermost (tree : Node) (titles : List String) :
    let found := headerSites tree titles
    findHeaders tree titles = found.map (·.node) ∧
    found.Sublist (Site.root tree).walk ∧ (found.map Site.path).Nodup ∧
    (∀ site, site ∈ found ↔ site ∈ (Site.root tree).walk ∧ TitledHeader titles site.node ∧
      ∀ outer ∈ site.ancestors, ¬TitledHeader titles outer.node) ∧
    (∀ site ∈ found, ∀ outer ∈ found, outer ∉ site.ancestors) ∧
    (∀ site ∈ (Site.root tree).walk, TitledHeader titles site.node →
      site ∈ found ∨ ∃ outer ∈ found, outer ∈ site.ancestors) ∧
    (countContexts tree titles = none ↔
      ∀ site ∈ (Site.root tree).walk, ¬TitledHeader titles site.node) ∧
    ∀ others, (countContexts tree (titles ++ others)).getD 0 ≤
      (countContexts tree titles).getD 0 + (countContexts tree others).getD 0 := by
  refine ⟨rfl, ?_, nodup_paths_headerSites tree titles, fun _ => mem_headerSites, ?_, ?_,
    countContexts_eq_none_iff, countContexts_append_le tree titles⟩
  · rw [headerSites, outermostSites_eq]
    exact List.filter_sublist
  · intro site isFound outer isFound' encloses
    have titled := (mem_headerSites.mp isFound').2.1
    exact (mem_headerSites.mp isFound).2.2 outer encloses titled
  · intro site inside titled
    exact exists_mem_headerSites inside titled

/-! A header inside a header of the same title. -/

def innerHeader : Node :=
  .call none "context" [.str "#find" none] (some (.block [.call none "it" [] none none] none)) none

def outerHeader : Node :=
  .call none "describe" [.str "#find" none] (some (.block [innerHeader] none)) none

def nestedHeaders : Node := .program [outerHeader] none

def outerSite : Site := ⟨outerHeader, [(nestedHeaders, 0)]⟩

def innerSite : Site :=
  ⟨innerHeader, [(.block [innerHeader] none, 0), (outerHeader, 1), (nestedHeaders, 0)]⟩

theorem headerSites_nested :
    innerSite ∈ (Site.root nestedHeaders).walk ∧ TitledHeader ["#find"] innerSite.node ∧
      outerSite ∈ headerSites nestedHeaders ["#find"] ∧
      innerSite ∉ headerSites nestedHeaders ["#find"] ∧
      ∃ outer ∈ headerSites nestedHeaders ["#find"], outer ∈ innerSite.ancestors := by
  have inside : innerSite ∈ (Site.root nestedHeaders).walk :=
    Site.mem_walk_root.mpr ⟨rfl, rfl, rfl, rfl⟩
  have titled : TitledHeader ["#find"] innerSite.node := isHeaderTitled_iff.mp (by decide)
  have isTitled : TitledHeader ["#find"] outerSite.node := isHeaderTitled_iff.mp (by decide)
  have encloses : outerSite ∈ innerSite.ancestors := by
    simp [innerSite, outerSite, Site.ancestors, Site.enclosing]
  obtain ⟨-, -, -, exactly, -, covered, -⟩ := headerSites_are_outermost nestedHeaders ["#find"]
  have outermost : outerSite ∈ headerSites nestedHeaders ["#find"] := by
    refine (exactly outerSite).mpr ⟨Site.mem_walk_root.mpr ⟨rfl, rfl⟩, isTitled, ?_⟩
    intro top encloses
    have isTop : top = Site.root nestedHeaders := List.mem_singleton.mp encloses
    rw [isTop, ← isHeaderTitled_eq_false_iff]
    rfl
  have hidden : innerSite ∉ headerSites nestedHeaders ["#find"] := fun found =>
    ((exactly innerSite).mp found).2.2 outerSite encloses isTitled
  exact ⟨inside, titled, outermost, hidden, (covered innerSite inside titled).resolve_left hidden⟩

end SpecLint.Spec
