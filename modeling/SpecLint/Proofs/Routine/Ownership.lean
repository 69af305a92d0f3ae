import SpecLint.Proofs.Routine.Outline
import SpecLint.Proofs.Routine.Precedence

/-!
# Decision points and the routines that own them

The branches of a routine are counted in one go through its body: what is pending is a stack, the
next node is taken from its top and replaced by its children, unless it is a nested definition. Seen
from a node, this is the count of the nearest definition around it.

## Main result

`branches_of_owned`: the count of a routine is made of exactly the nodes that it owns, and no change
inside of a nested definition affects it.
-/
namespace SpecLint.Routine

open SpecLint.Code

/-! ### The visit -/

/-- The children of a site, unless it is a nested definition. -/
def entered (site : Site) : List Site := if isNestedScope site.node then [] else site.children

/-- The nodes below everything that is pending. -/
def pendingSize (pending : List Site) : Nat := (pending.flatMap Site.walk).length

theorem pendingSize_entered (site : Site) (pending : List Site) :
    pendingSize (entered site ++ pending) < pendingSize (site :: pending) := by
  have whole := congrArg List.length (Site.walk_eq site)
  have inside : ((entered site).flatMap Site.walk).length ≤
      (site.children.flatMap Site.walk).length := by
    unfold entered
    split <;> simp
  simp only [pendingSize, List.flatMap_append, List.flatMap_cons, List.length_append,
    List.length_cons] at whole ⊢
  omega

/-- The sites visited from a stack of pending ones, the next one first. -/
def visit : List Site → List Site
  | [] => []
  | site :: pending => site :: visit (entered site ++ pending)
termination_by pending => pendingSize pending
decreasing_by exact pendingSize_entered site pending

theorem ownNodes_eq_entered (site : Site) :
    ownNodes site.node = site.node :: ((entered site).map (·.node)).flatMap ownNodes := by
  rw [ownNodes_eq, entered]
  cases isNestedScope site.node with
  | true => rfl
  | false => simp only [Bool.false_eq_true, if_false, Site.map_node_children]

/-- The visit meets the nodes that a walk without nested insides meets, in the same order. -/
theorem map_node_visit (pending : List Site) :
    (visit pending).map (·.node) = (pending.map (·.node)).flatMap ownNodes := by
  fun_induction visit pending with
  | case1 => rfl
  | case2 site pending ih =>
    rw [List.map_cons, ih, List.map_cons, List.flatMap_cons, ownNodes_eq_entered, List.map_append,
      List.flatMap_append]
    rfl

/-- The visit leaves out parts of the walks, and adds nothing. -/
theorem visit_sublist (pending : List Site) :
    (visit pending).Sublist (pending.flatMap Site.walk) := by
  fun_induction visit pending with
  | case1 => exact List.Sublist.slnil
  | case2 site pending ih =>
    rw [List.flatMap_cons, Site.walk_eq, List.cons_append]
    refine (ih.trans ?_).cons_cons site
    rw [List.flatMap_append]
    refine List.Sublist.append ?_ (List.Sublist.refl _)
    unfold entered
    split
    · exact List.nil_sublist _
    · exact List.Sublist.refl _

/-! ### What is reached -/

/-- No nested definition stands between a site and one below it, the upper one included. -/
def Reaches (top inner : Site) : Prop :=
  ∃ between, inner.above = between ++ top.above ∧ Site.Leads top.node between inner.node ∧
    ∀ frame ∈ between, isNestedScope frame.1 = false

theorem reaches_iff {top inner : Site} :
    Reaches top inner ↔ inner = top ∨ ∃ child ∈ entered top, Reaches child inner := by
  constructor
  · rintro ⟨between, frames, leads, clear⟩
    -- the outermost frame between the two belongs to the upper one
    rcases List.eq_nil_or_concat between with rfl | ⟨between, ⟨node, position⟩, rfl⟩
    · left
      obtain ⟨lower, above⟩ := inner
      exact congrArg₂ Site.mk leads frames
    · right
      rw [List.concat_eq_append] at frames leads clear
      obtain ⟨rfl, child, found, leads⟩ := (Site.leads_concat ..).mp leads
      have open' : isNestedScope top.node = false := clear (top.node, position) (by simp)
      refine ⟨⟨child, (top.node, position) :: top.above⟩, ?_, between, by simpa using frames,
        leads, fun frame member => clear frame (by simp [member])⟩
      rw [entered, open']
      exact Site.mem_children.mpr ⟨position, found, rfl⟩
  · rintro (rfl | ⟨child, member, between, frames, leads, clear⟩)
    · exact ⟨[], rfl, rfl, by simp⟩
    · have open' : isNestedScope top.node = false := by
        cases nested : isNestedScope top.node with
        | false => rfl
        | true =>
          rw [entered, nested] at member
          cases member
      rw [entered, open'] at member
      obtain ⟨position, found, above⟩ := Site.mem_children.mp member
      refine ⟨between ++ [(top.node, position)], by rw [frames, above]; simp,
        (Site.leads_concat ..).mpr ⟨rfl, child.node, found, leads⟩, ?_⟩
      intro frame among
      rcases List.mem_append.mp among with inside | last
      · exact clear frame inside
      · rw [List.mem_singleton.mp last]
        exact open'

theorem mem_visit {pending : List Site} {inner : Site} :
    inner ∈ visit pending ↔ ∃ top ∈ pending, Reaches top inner := by
  fun_induction visit pending with
  | case1 => simp
  | case2 site pending ih =>
    rw [List.mem_cons, ih]
    constructor
    · rintro (rfl | ⟨top, member, reaches⟩)
      · exact ⟨_, List.mem_cons_self .., reaches_iff.mpr (.inl rfl)⟩
      · rcases List.mem_append.mp member with inside | later
        · exact ⟨site, List.mem_cons_self .., reaches_iff.mpr (.inr ⟨top, inside, reaches⟩)⟩
        · exact ⟨top, List.mem_cons_of_mem _ later, reaches⟩
    · rintro ⟨top, member, reaches⟩
      rcases List.mem_cons.mp member with rfl | later
      · rcases reaches_iff.mp reaches with same | ⟨child, inside, reaches⟩
        · exact .inl same
        · exact .inr ⟨child, List.mem_append_left _ inside, reaches⟩
      · exact .inr ⟨top, List.mem_append_right _ later, reaches⟩

/-! ### Owners -/

/-- The receiver that a method of one object names. -/
def receiver? (routine : Site) : Option Site :=
  match routine.node with
  | .singletonMethodDef receiver _ _ _ => some ⟨receiver, (routine.node, 0) :: routine.above⟩
  | _ => none

/-- A site belongs to the receiver of a routine. -/
def InReceiver (routine inner : Site) : Prop :=
  ∃ receiver, receiver? routine = some receiver ∧ inner ∈ receiver.walk

/-- The nearest definition around a site is the routine, and the site is not part of the
receiver. -/
def Owns (routine inner : Site) : Prop :=
  Nearest (fun site => isNestedScope site.node) inner.ancestors routine ∧
    ¬ InReceiver routine inner

/-- The nearest definition in terms of frames. -/
theorem nearest_enclosing_iff {above : List (Node × Nat)} {outer : Site} :
    Nearest (fun site => isNestedScope site.node) (Site.enclosing above) outer ↔
      isNestedScope outer.node = true ∧
        ∃ between position, above = between ++ (outer.node, position) :: outer.above ∧
          ∀ frame ∈ between, isNestedScope frame.1 = false := by
  induction above with
  | nil => simp [nearest_iff, Site.enclosing]
  | cons frame above ih =>
    obtain ⟨node, position⟩ := frame
    rw [nearest_iff, Site.enclosing, List.find?_cons]
    cases nested : isNestedScope node with
    | true =>
      simp only [Option.some.injEq]
      constructor
      · rintro rfl
        exact ⟨nested, [], position, rfl, by simp⟩
      · rintro ⟨_, between, position', split, clear⟩
        cases between with
        | nil =>
          obtain ⟨lower, above'⟩ := outer
          simp only [List.nil_append, List.cons.injEq, Prod.mk.injEq] at split
          rw [split.1.1, split.2]
        | cons first between =>
          rw [List.cons_append, List.cons.injEq] at split
          have shut := clear first (List.mem_cons_self ..)
          rw [← split.1, nested] at shut
          cases shut
    | false =>
      simp only
      rw [← nearest_iff, ih]
      constructor
      · rintro ⟨isNested, between, position', split, clear⟩
        refine ⟨isNested, (node, position) :: between, position', by rw [split]; rfl, ?_⟩
        intro frame among
        rcases List.mem_cons.mp among with rfl | later
        · exact nested
        · exact clear frame later
      · rintro ⟨isNested, between, position', split, clear⟩
        refine ⟨isNested, ?_⟩
        cases between with
        | nil =>
          simp only [List.nil_append, List.cons.injEq, Prod.mk.injEq] at split
          rw [split.1.1, isNested] at nested
          cases nested
        | cons first between =>
          rw [List.cons_append, List.cons.injEq] at split
          exact ⟨between, position', split.2, fun frame later =>
            clear frame (List.mem_cons_of_mem _ later)⟩

theorem isNestedScope_of_isRoutine {node : Node} (isRoutine : node.isRoutine = true) :
    isNestedScope node = true := by
  cases node <;> first | rfl | cases isRoutine

theorem holdsBody_of_isRoutine {node : Node} (isRoutine : node.isRoutine = true) :
    Site.HoldsBody node := by
  cases node <;> first | exact trivial | cases isRoutine

/-- The children of a routine are its receiver, if it has one, and its statements. -/
theorem child_of_routine {routine : Site} (isRoutine : routine.node.isRoutine = true)
    {position : Nat} {child : Node} (found : routine.node.children[position]? = some child) :
    (∃ receiver, receiver? routine = some receiver ∧ receiver.node = child ∧
      receiver.above = (routine.node, position) :: routine.above) ∨
    ∃ index, routine.node.body[index]? = some child ∧
      position = index + routine.node.bodyOffset := by
  have holds := holdsBody_of_isRoutine isRoutine
  by_cases behind : routine.node.bodyOffset ≤ position
  · right
    refine ⟨position - routine.node.bodyOffset, ?_, (Nat.sub_add_cancel behind).symm⟩
    rw [Site.getElem?_body holds, Nat.sub_add_cancel behind, found]
  · left
    obtain ⟨node, above⟩ := routine
    cases node with
    | methodDef name body loc => exact absurd (Nat.zero_le _) behind
    | singletonMethodDef receiver name body loc =>
      have first : position = 0 := by
        simp only [Node.bodyOffset] at behind
        omega
      subst first
      exact ⟨_, rfl, Option.some.inj found, rfl⟩
    | _ => cases isRoutine

/-- The receiver stands before all statements. -/
theorem receiver_above {routine receiver : Site} (found : receiver? routine = some receiver) :
    receiver.above = (routine.node, 0) :: routine.above ∧ routine.node.bodyOffset = 1 := by
  obtain ⟨node, above⟩ := routine
  cases node with
  | singletonMethodDef node name body loc =>
    cases found
    exact ⟨rfl, rfl⟩
  | _ => cases found

variable {tree : Node} {routine : Site}

/-- The visit of a body meets exactly the sites that the routine owns. -/
theorem mem_visit_statements (inside : routine ∈ (Site.root tree).walk)
    (isRoutine : routine.node.isRoutine = true) {inner : Site} :
    inner ∈ visit routine.statements ↔ inner ∈ (Site.root tree).walk ∧ Owns routine inner := by
  have holds := holdsBody_of_isRoutine isRoutine
  rw [mem_visit, Site.mem_walk_root]
  constructor
  · rintro ⟨statement, member, between, frames, leads, clear⟩
    obtain ⟨index, found, above⟩ := (Site.mem_statements holds).mp member
    rw [above] at frames
    refine ⟨?_, ?_, ?_⟩
    · rw [frames, Site.leads_append]
      refine ⟨statement.node, ⟨?_, Site.mem_walk_root.mp inside⟩, leads⟩
      rw [← Site.getElem?_body holds, found]
    · rw [Site.ancestors, nearest_enclosing_iff]
      exact ⟨isNestedScope_of_isRoutine isRoutine, between, _, frames, clear⟩
    · rintro ⟨receiver, isReceiver, within⟩
      -- the way to a statement and the way to the receiver part at the routine
      obtain ⟨front, offset⟩ := receiver_above isReceiver
      obtain ⟨way, frames', _⟩ := Site.mem_walk.mp within
      rw [front, frames] at frames'
      have ends := (List.append_inj' frames' (by simp)).2
      simp only [List.cons.injEq, Prod.mk.injEq, true_and, and_true] at ends
      omega
  · rintro ⟨leads, nearest, outside⟩
    rw [Site.ancestors, nearest_enclosing_iff] at nearest
    obtain ⟨_, between, position, frames, clear⟩ := nearest
    rw [frames, Site.leads_append] at leads
    obtain ⟨child, ⟨found, _⟩, below⟩ := leads
    rcases child_of_routine isRoutine found with
      ⟨receiver, isReceiver, rfl, above⟩ | ⟨index, listed, rfl⟩
    · refine absurd ⟨receiver, isReceiver, ?_⟩ outside
      exact Site.mem_walk.mpr ⟨between, by rw [frames, above], below⟩
    · exact ⟨⟨child, _⟩, (Site.mem_statements holds).mpr ⟨index, listed, rfl⟩, between, frames,
        below, clear⟩

/-- No site is visited twice. -/
theorem nodup_visit_statements (isRoutine : routine.node.isRoutine = true) :
    (visit routine.statements).Nodup := by
  have whole := Site.nodup_walk routine
  rw [Site.walk_eq, List.nodup_cons] at whole
  obtain ⟨front, split⟩ :=
    Site.children_eq_append_statements (holdsBody_of_isRoutine isRoutine)
  rw [split, List.flatMap_append] at whole
  exact ((visit_sublist _).trans (List.sublist_append_right ..)).nodup whole.2

/-- A site has one owner. -/
theorem Owns.unique {routine other inner : Site} (first : Owns routine inner)
    (second : Owns other inner) : other = routine := by
  have here := (nearest_iff ..).mp first.1
  have there := (nearest_iff ..).mp second.1
  exact Option.some.inj (there.symm.trans here)

/-! ### The count -/

/-- What a node contributes where memoization guards may be left out. -/
theorem sum_counted (ignoreMemoization : Bool) (sites : List Site) :
    (sites.map fun site => counted ignoreMemoization site.node).sum =
      ((sites.filter fun site => !(ignoreMemoization && isMemoizationGuard site.node)).map
        fun site => contribution site.node).sum := by
  induction sites with
  | nil => rfl
  | cons site sites ih =>
    rw [List.map_cons, List.sum_cons, ih, List.filter_cons]
    cases guard : ignoreMemoization && isMemoizationGuard site.node with
    | true =>
      rw [Bool.and_eq_true] at guard
      simp [counted, guard]
    | false =>
      have kept : counted ignoreMemoization site.node = contribution site.node := by
        rw [counted, if_neg]
        rw [← Bool.and_eq_true, guard]
        exact Bool.false_ne_true
      simp [kept]

theorem branches_eq_visit (ignoreMemoization : Bool) (routine : Site) :
    branches ignoreMemoization routine.node.body =
      max 1 ((visit routine.statements).map fun site =>
        counted ignoreMemoization site.node).sum := by
  have nodes : routine.node.body.flatMap ownNodes =
      (visit routine.statements).map (·.node) := by
    rw [map_node_visit, Site.map_node_statements]
  rw [branches, nodes, List.map_map]
  rfl

/-- The tree with other statements for one definition. -/
def replaceBody (tree : Node) (nested : Site) (body : List Node) : Node :=
  tree.modifyAt (withBody body) nested.path.reverse

/-- The definition has the statements it was given, where it stood. -/
theorem body_replaceBody {nested : Site} (within : nested ∈ (Site.root tree).walk)
    (isNested : isNestedScope nested.node = true) (body : List Node) :
    ∃ replaced ∈ (Site.root (replaceBody tree nested body)).walk,
      replaced.path = nested.path ∧ replaced.node.body = body := by
  obtain ⟨replaced, found, same, node⟩ := Site.mem_walk_modifyAt (withBody body) within
  refine ⟨replaced, found, same, ?_⟩
  rw [node, body_withBody isNested]

/-- A routine with other children is the same routine. -/
theorem isRoutine_withChildren {node : Node} (isRoutine : node.isRoutine = true)
    (items : List Node) :
    (node.withChildren items).isRoutine = true ∧
      (node.withChildren items).declaredName = node.declaredName ∧
      (node.withChildren items).bodyOffset = node.bodyOffset := by
  cases node with
  | methodDef | singletonMethodDef => exact ⟨rfl, rfl, rfl⟩
  | _ => cases isRoutine

/-- Other statements for a definition below a routine leave the routine and the outline of its body
as they are. -/
theorem body_modifyAt {node inner : Node} {frames : List (Node × Nat)}
    (isRoutine : node.isRoutine = true) (below : frames ≠ []) (leads : Site.Leads node frames inner)
    (nested : isNestedScope inner = true) (body : List Node) :
    let changed := node.modifyAt (withBody body) (frames.map (·.2)).reverse
    changed.isRoutine = true ∧ changed.declaredName = node.declaredName ∧
      changed.body.map outline = node.body.map outline := by
  obtain rfl | ⟨between, ⟨top, position⟩, rfl⟩ := List.eq_nil_or_concat frames
  · exact absurd rfl below
  rw [List.concat_eq_append] at leads ⊢
  obtain ⟨rfl, child, found, leads⟩ := (Site.leads_concat ..).mp leads
  rw [Site.reverse_positions_concat, Node.modifyAt]
  intro changed
  obtain ⟨again, name, offset⟩ := isRoutine_withChildren isRoutine
    (top.children.modify position (Node.modifyAt (withBody body) (between.map (·.2)).reverse))
  refine ⟨again, name, ?_⟩
  -- the body is the end of the children, and these have kept their outlines
  rw [Site.body_eq_drop (holdsBody_of_isRoutine again), offset,
    Site.body_eq_drop (holdsBody_of_isRoutine isRoutine),
    Node.children_withChildren (List.length_modify ..), List.map_drop, List.map_drop,
    map_outline_modify found (outline_modifyAt leads nested body)]

/-- Other statements for a definition below a routine do not change the count of the routine. -/
theorem branches_replaceBody (inside : routine ∈ (Site.root tree).walk)
    (isRoutine : routine.node.isRoutine = true) {nested : Site}
    (within : nested ∈ (Site.root tree).walk) (isNested : isNestedScope nested.node = true)
    (encloses : routine ∈ nested.ancestors) (body : List Node) :
    ∃ changed ∈ (Site.root (replaceBody tree nested body)).walk,
      changed.path = routine.path ∧ changed.node.isRoutine = true ∧
        changed.node.declaredName = routine.node.declaredName ∧
        ∀ ignoreMemoization, branches ignoreMemoization changed.node.body =
          branches ignoreMemoization routine.node.body := by
  obtain ⟨between, position, frames⟩ := Site.mem_ancestors.mp encloses
  rw [Site.mem_walk_root, frames, ← List.singleton_append, ← List.append_assoc,
    Site.leads_append] at within
  obtain ⟨middle, outer, leads⟩ := within
  -- the way to the nested definition passes the routine
  obtain ⟨_, rfl⟩ := Site.leads_unique outer (Site.mem_walk_root.mp inside) rfl
  have split : nested.path.reverse = routine.path.reverse ++
      ((between ++ [(routine.node, position)]).map (·.2)).reverse := by
    rw [Site.path, frames, ← List.singleton_append, ← List.append_assoc, List.map_append,
      List.reverse_append]
    rfl
  rw [replaceBody, split, Node.modifyAt_append]
  obtain ⟨changed, found, same, node⟩ := Site.mem_walk_modifyAt
    (Node.modifyAt (withBody body) ((between ++ [(routine.node, position)]).map (·.2)).reverse)
    inside
  obtain ⟨again, name, outlines⟩ := body_modifyAt isRoutine (by simp) leads isNested body
  refine ⟨changed, found, same, ?_, ?_, fun ignoreMemoization => ?_⟩
  · rw [node, again]
  · rw [node, name]
  · rw [node]
    exact branches_congr ignoreMemoization outlines

/-- The number of branches of a routine counts exactly the nodes that the routine owns: those for
which it is the nearest definition and which are not part of its receiver. Each is met once, none
counts for two routines, and other statements inside of a nested definition change nothing. -/
theorem branches_of_owned (inside : routine ∈ (Site.root tree).walk)
    (isRoutine : routine.node.isRoutine = true) :
    (visit routine.statements).map (·.node) = routine.node.body.flatMap ownNodes ∧
    (visit routine.statements).Nodup ∧
    (∀ inner, inner ∈ visit routine.statements ↔
      inner ∈ (Site.root tree).walk ∧ Owns routine inner) ∧
    (∀ (ignoreMemoization : Bool) (owned : List Site), owned.Nodup →
      (∀ inner, inner ∈ owned ↔ inner ∈ (Site.root tree).walk ∧ Owns routine inner) →
        branches ignoreMemoization routine.node.body = max 1
          ((owned.filter fun site => !(ignoreMemoization && isMemoizationGuard site.node)).map
            fun site => contribution site.node).sum) ∧
    (∀ other ∈ (Site.root tree).walk, other.node.isRoutine = true →
      ∀ inner ∈ visit routine.statements, inner ∈ visit other.statements → other = routine) ∧
    (∀ nested ∈ (Site.root tree).walk, isNestedScope nested.node = true →
      routine ∈ nested.ancestors → ∀ body : List Node,
        (∃ replaced ∈ (Site.root (replaceBody tree nested body)).walk,
          replaced.path = nested.path ∧ replaced.node.body = body) ∧
        ∃ changed ∈ (Site.root (replaceBody tree nested body)).walk,
          changed.path = routine.path ∧ changed.node.isRoutine = true ∧
            changed.node.declaredName = routine.node.declaredName ∧
            ∀ ignoreMemoization, branches ignoreMemoization changed.node.body =
              branches ignoreMemoization routine.node.body) := by
  have members (inner : Site) : inner ∈ visit routine.statements ↔
      inner ∈ (Site.root tree).walk ∧ Owns routine inner :=
    mem_visit_statements inside isRoutine
  have once := nodup_visit_statements isRoutine
  refine ⟨?_, once, members, ?_, ?_, ?_⟩
  · rw [map_node_visit, Site.map_node_statements]
  · intro ignoreMemoization owned distinct owns
    have same : (visit routine.statements).Perm owned :=
      (List.perm_ext_iff_of_nodup once distinct).mpr fun inner =>
        (members inner).trans (owns inner).symm
    rw [branches_eq_visit, (same.map _).sum_nat, sum_counted]
  · intro other elsewhere otherIsRoutine inner here there
    have otherOwns := (mem_visit_statements elsewhere otherIsRoutine).mp there
    exact ((members inner).mp here).2.unique otherOwns.2
  · intro nested within isNested encloses body
    exact ⟨body_replaceBody within isNested body,
      branches_replaceBody inside isRoutine within isNested encloses body⟩

/-! A method of one object whose receiver is a choice, with a memoization guard around another
choice and with a class inside that has a method of its own. -/

def earlyExit : Node :=
  .conditional .modifier [.arm (some (.identifier "done" none)) [.returned none none] none] none
    false none

def choice : Node :=
  .conditional .ternary [.arm (some (.identifier "ready" none)) [.selfRef none] none]
    (some [.identifier "other" none]) false none

def helperClass : Node := .classDef "Helper" none [.methodDef "run" [earlyExit] none] none

def totalMethod : Node :=
  .singletonMethodDef choice "total"
    [.opAssign (.instanceVar "@total" none) "||=" choice none, helperClass, earlyExit] none

def totalProgram : Node := .program [totalMethod] none

def totalSite : Site := ⟨totalMethod, [(totalProgram, 0)]⟩

def helperSite : Site := ⟨helperClass, [(totalMethod, 2), (totalProgram, 0)]⟩

theorem branches_of_total :
    totalSite ∈ (Site.root totalProgram).walk ∧ totalSite.node.isRoutine = true ∧
      helperSite ∈ (Site.root totalProgram).walk ∧ totalSite ∈ helperSite.ancestors ∧
      branches true totalSite.node.body = 3 ∧ branches false totalSite.node.body = 5 ∧
      ∃ changed ∈ (Site.root (replaceBody totalProgram helperSite [choice, earlyExit])).walk,
        changed.path = totalSite.path ∧ branches true changed.node.body = 3 ∧
          branches false changed.node.body = 5 := by
  have inside : totalSite ∈ (Site.root totalProgram).walk := Site.mem_walk_root.mpr ⟨rfl, rfl⟩
  have within : helperSite ∈ (Site.root totalProgram).walk :=
    Site.mem_walk_root.mpr ⟨rfl, rfl, rfl⟩
  have encloses : totalSite ∈ helperSite.ancestors := List.mem_cons_self ..
  have guarded : branches true totalSite.node.body = 3 := by decide +kernel
  have all : branches false totalSite.node.body = 5 := by decide +kernel
  obtain ⟨_, _, _, _, _, unaffected⟩ := branches_of_owned inside rfl
  obtain ⟨changed, found, same, _, _, counts⟩ :=
    (unaffected helperSite within rfl encloses [choice, earlyExit]).2
  refine ⟨inside, rfl, within, encloses, guarded, all, changed, found, same, ?_, ?_⟩
  · rw [counts, guarded]
  · rw [counts, all]

end SpecLint.Routine
