import SpecLint.Proofs.Code.Position
import SpecLint.Proofs.CodeUnit.QualifiedName
import SpecLint.Spec.Headers

/-!
# Headers of a unit

A `describe` call is a header of a unit if it names a constant, if nothing but bodies of modules and
classes lies between it and the top of the spec, and if the names of these and the constant are the
name of the unit. This says of each site by itself whether it is a header; nothing is passed on from
wrapper to wrapper and nothing is left out.

## Main result

`unitHeaders_are_described`: the search, which takes each wrapper's part off the name and turns back
where the name does not begin with it, finds exactly the headers in this sense, in the order of the
walk. So it does not matter how the constants of a name are spread over wrappers and the `describe`
call, and no call is a header of two units.
-/
namespace SpecLint.Spec

open SpecLint.Code

/-! ### Headers by their surroundings -/

/-- The names of the modules and classes whose bodies lead straight from the top of a program to a
place, outermost first; absent where something else lies between. -/
def wrappers? : List (Node × Nat) → Option (List (List Char))
  | (.program _ _, _) :: outer => if outer.isEmpty then some [] else none
  | (.moduleDef name _ _, _) :: outer =>
    (wrappers? outer).map (· ++ [CodeUnit.withoutColons name.toList])
  | (.classDef name superclass _ _, position) :: outer =>
    if superclass.toList.length ≤ position then
      (wrappers? outer).map (· ++ [CodeUnit.withoutColons name.toList])
    else none
  | _ => none

/-- The name that a `describe` call gives to what it describes, its wrappers included. -/
def describedName? (site : Site) : Option (List Char) := do
  let constant ← describedConstant? site.node
  let names ← wrappers? site.above
  return CodeUnit.joined (names ++ [CodeUnit.withoutColons constant.toList])

/-- Whether a site is a header of a unit. -/
def describes (unit : List Char) (site : Site) : Bool := describedName? site == some unit

/-- How a name goes on from wrapper to wrapper. -/
def openings (names : List (List Char)) : List Char := names.flatMap (· ++ [':', ':'])

theorem openings_append (names more : List (List Char)) :
    openings (names ++ more) = openings names ++ openings more := List.flatMap_append

theorem describes_iff {unit : List Char} {site : Site} :
    describes unit site = true ↔
      ∃ constant names, describedConstant? site.node = some constant ∧
        wrappers? site.above = some names ∧
        openings names ++ CodeUnit.withoutColons constant.toList = unit := by
  simp only [describes, describedName?, beq_iff_eq, openings, CodeUnit.joined,
    CodeUnit.joinWith_concat]
  cases describedConstant? site.node <;> cases wrappers? site.above <;> simp

/-! ### What lies between a header and the top -/

/-- A chain of wrappers is a chain up to each of its members. -/
theorem wrappers?_append {inner outer : List (Node × Nat)} {names : List (List Char)}
    (chain : wrappers? (inner ++ outer) = some names) (below : outer ≠ []) :
    ∃ first more, wrappers? outer = some first ∧ names = first ++ more := by
  induction inner generalizing names with
  | nil => exact ⟨names, [], chain, by simp⟩
  | cons frame inner ih =>
    obtain ⟨node, position⟩ := frame
    -- a wrapper only adds its name at the inner end
    have extend {name : List Char}
        (chain : (wrappers? (inner ++ outer)).map (· ++ [name]) = some names) :
        ∃ first more, wrappers? outer = some first ∧ names = first ++ more := by
      obtain ⟨shorter, shorterChain, rfl⟩ := Option.map_eq_some_iff.mp chain
      obtain ⟨first, more, found, rfl⟩ := ih shorterChain
      exact ⟨first, more ++ [name], found, by simp⟩
    cases node <;> simp only [List.cons_append, wrappers?, reduceCtorEq] at chain
    case program body loc =>
      split at chain
      next top => simp [below] at top
      next => simp at chain
    case moduleDef name body loc => exact extend chain
    case classDef name superclass body loc =>
      split at chain
      · exact extend chain
      · simp at chain

/-- The name of a unit begins with what each wrapper around one of its headers has taken. -/
theorem openings_prefix_of_describes {unit : List Char} {site : Site}
    {inner outer : List (Node × Nat)} (header : describes unit site = true)
    (frames : site.above = inner ++ outer) (below : outer ≠ []) :
    ∃ names, wrappers? outer = some names ∧ openings names <+: unit := by
  obtain ⟨constant, all, _, chain, rfl⟩ := describes_iff.mp header
  rw [frames] at chain
  obtain ⟨names, more, found, rfl⟩ := wrappers?_append chain below
  refine ⟨names, found, ?_⟩
  rw [openings_append, List.append_assoc]
  exact List.prefix_append ..

/-- There is no header below a place that no chain of wrappers leads to. -/
theorem filter_below_eq_nil {unit : List Char} {node : Node} {above : List (Node × Nat)}
    (below : above ≠ [])
    (broken : ∀ names, wrappers? above = some names → ¬openings names <+: unit) :
    (Site.below node above).filter (describes unit) = [] := by
  rw [List.filter_eq_nil_iff]
  intro site member header
  obtain ⟨inner, frames, _⟩ := Site.mem_below.mp member
  obtain ⟨names, found, starts⟩ := openings_prefix_of_describes header frames below
  exact broken names found starts

/-! ### The search -/

/-- Visiting items together with their positions, where the positions do not matter. -/
theorem flatMap_zipIdx_fst {α β : Type} (items : List α) (start : Nat) (visit : α → List β) :
    ((items.zipIdx start).flatMap fun entry => visit entry.1) = items.flatMap visit := by
  rw [← List.flatMap_map, List.zipIdx_map_fst]

/-- Where nothing is found in front of the body, the visit of the children is one of the body. -/
theorem flatMap_children {node : Node} {visit : Node × Nat → List Node}
    {inBody : Node → List Node} (holds : Site.HoldsBody node)
    (before : ∀ entry ∈ node.children.zipIdx, entry.2 < node.bodyOffset → visit entry = [])
    (within : ∀ entry ∈ node.children.zipIdx, node.bodyOffset ≤ entry.2 →
      visit entry = inBody entry.1) :
    node.children.zipIdx.flatMap visit = node.body.flatMap inBody := by
  -- the children are what stands in front of the body, and the body
  obtain ⟨header, split, size⟩ := Site.children_eq_append_body holds
  simp only [split, ← size, List.zipIdx_append, List.flatMap_append, List.mem_append,
    Nat.zero_add] at before within ⊢
  have silent : header.zipIdx.flatMap visit = [] := by
    rw [List.flatMap_eq_nil_iff]
    intro entry member
    exact before entry (.inl member) (by simpa using List.snd_lt_of_mem_zipIdx member)
  have found : (node.body.zipIdx header.length).flatMap visit =
      (node.body.zipIdx header.length).flatMap fun entry => inBody entry.1 := by
    rw [List.flatMap_def, List.flatMap_def]
    refine congrArg List.flatten (List.map_congr_left fun entry member => ?_)
    exact within entry (.inr member) (List.le_snd_of_mem_zipIdx member)
  rw [silent, found, List.nil_append, flatMap_zipIdx_fst]

/-! ### Wrappers and other statements -/

theorem wrapper?_of_isUnit {node : Node} (isUnit : node.isUnit = true) :
    wrapper? node = some (CodeUnit.withoutColons node.declaredName.toList ++ [':', ':']) ∧
      describedConstant? node = none ∧ Site.HoldsBody node := by
  cases node <;> simp only [Node.isUnit, Bool.false_eq_true] at isUnit <;>
    exact ⟨rfl, rfl, trivial⟩

theorem wrapper?_of_not_isUnit {node : Node} (other : node.isUnit = false) :
    wrapper? node = none := by
  cases node <;> first | rfl | simp [Node.isUnit] at other

theorem wrappers?_cons_body {node : Node} {above : List (Node × Nat)} {position : Nat}
    (isUnit : node.isUnit = true) (inBody : node.bodyOffset ≤ position) :
    wrappers? ((node, position) :: above) =
      (wrappers? above).map (· ++ [CodeUnit.withoutColons node.declaredName.toList]) := by
  cases node <;> simp only [Node.isUnit, Bool.false_eq_true] at isUnit
  case moduleDef => rfl
  case classDef => exact if_pos inBody

theorem wrappers?_cons_header {node : Node} {above : List (Node × Nat)} {position : Nat}
    (isUnit : node.isUnit = true) (inHeader : position < node.bodyOffset) :
    wrappers? ((node, position) :: above) = none := by
  cases node <;> simp only [Node.isUnit, Bool.false_eq_true] at isUnit
  case moduleDef => exact absurd inHeader (Nat.not_lt_zero _)
  case classDef => exact if_neg (Nat.not_le_of_lt inHeader)

/-- Anything but a module or class breaks the chain; a program stands only at the top. -/
theorem wrappers?_cons_other {node : Node} {above : List (Node × Nat)} {position : Nat}
    (other : node.isUnit = false) (below : above ≠ []) :
    wrappers? ((node, position) :: above) = none := by
  cases node <;> first | rfl | simp only [Node.isUnit, Bool.true_eq_false] at other
  case program => exact if_neg (by simpa using below)

theorem describes_head {statement : Node} {above : List (Node × Nat)} {names : List (List Char)}
    (chain : wrappers? above = some names) (rest : List Char) :
    describes (openings names ++ rest) ⟨statement, above⟩ =
      (describedConstant? statement).any fun constant =>
        CodeUnit.withoutColons constant.toList == rest := by
  rw [Bool.eq_iff_iff, describes_iff, Option.any_eq_true]
  simp [chain]

/-- The search in one statement, given the wrappers around it. -/
theorem map_node_filter_below (statement : Node) {above : List (Node × Nat)}
    {names : List (List Char)} (chain : wrappers? above = some names) (rest : List Char) :
    ((Site.below statement above).filter (describes (openings names ++ rest))).map (·.node) =
      unitHeadersIn rest statement := by
  induction statement using Node.induction generalizing above names rest with
  | step statement ih =>
    -- the chain is never empty, so that a program inside it breaks it
    have below : above ≠ [] := by
      rintro rfl
      simp [wrappers?] at chain
    rw [Site.below_eq, unitHeadersIn_eq, List.filter_cons, describes_head chain,
      List.filter_flatMap]
    cases isUnit : statement.isUnit with
    | false =>
      -- only the statement itself can be a header
      have deeper : (statement.children.zipIdx.flatMap fun entry =>
          (Site.below entry.1 ((statement, entry.2) :: above)).filter
            (describes (openings names ++ rest))) = [] := by
        rw [List.flatMap_eq_nil_iff]
        intro entry _
        apply filter_below_eq_nil (List.cons_ne_nil _ _)
        simp [wrappers?_cons_other isUnit below]
      rw [deeper, wrapper?_of_not_isUnit isUnit]
      split <;> rfl
    | true =>
      -- a wrapper is no header itself, and takes its opening off the rest
      obtain ⟨opens, undescribed, holds⟩ := wrapper?_of_isUnit isUnit
      simp only [undescribed, Option.any_none, Bool.false_eq_true, if_false, opens,
        List.map_flatMap, List.isPrefixOf_iff_prefix]
      split
      next starts =>
        obtain ⟨rest, rfl⟩ := starts
        rw [List.drop_left]
        apply flatMap_children holds
        · intro entry _ inHeader
          -- a superclass is no part of the body
          rw [filter_below_eq_nil (List.cons_ne_nil _ _)
            (by simp [wrappers?_cons_header isUnit inHeader])]
          rfl
        · intro entry member inBody
          have longer : wrappers? ((statement, entry.2) :: above) =
              some (names ++ [CodeUnit.withoutColons statement.declaredName.toList]) := by
            rw [wrappers?_cons_body isUnit inBody, chain, Option.map_some]
          have found := ih entry.1 (List.fst_mem_of_mem_zipIdx member) longer rest
          rw [← found, openings_append]
          simp [openings]
      next other =>
        -- a header below would put the opening in front of the rest
        rw [List.flatMap_eq_nil_iff]
        intro entry _
        rw [filter_below_eq_nil (List.cons_ne_nil _ _)]
        · rfl
        · intro longer found starts
          rcases Nat.lt_or_ge entry.2 statement.bodyOffset with inHeader | inBody
          · simp [wrappers?_cons_header isUnit inHeader] at found
          · rw [wrappers?_cons_body isUnit inBody, chain, Option.map_some,
              Option.some.injEq] at found
            subst found
            rw [openings_append, List.prefix_append_right_inj] at starts
            exact other (by simpa [openings] using starts)

/-- The search in a whole spec. -/
theorem unitHeaders_eq (body : List Node) (loc : Option Location) (unit : String) :
    unitHeaders (.program body loc) unit =
      ((Site.root (.program body loc)).walk.filter (describes unit.toList)).map (·.node) := by
  have undescribed : describes unit.toList ⟨.program body loc, []⟩ = false := rfl
  -- the program itself takes nothing off the name
  have top (position : Nat) : wrappers? [(.program body loc, position)] = some [] := rfl
  rw [Site.walk, Site.root, Site.below_eq, List.filter_cons, undescribed, List.filter_flatMap]
  simp only [Bool.false_eq_true, if_false, List.map_flatMap]
  have holds : Site.HoldsBody (.program body loc) := trivial
  refine (flatMap_children holds ?_ ?_).symm
  · intro entry _ inHeader
    exact absurd inHeader (Nat.not_lt_zero _)
  · intro entry _ _
    exact map_node_filter_below entry.1 (top entry.2) unit.toList

/-! ### Headers of a declared unit -/

/-- However the constants of a declaration are spread, the header describes the declared unit. -/
theorem describes_ofDeclaration {declaration site : Site} {constant : String}
    {names : List (List Char)} (described : describedConstant? site.node = some constant)
    (chain : wrappers? site.above = some names)
    (regroups : CodeUnit.Regroups (CodeUnit.qualifiedSegments declaration)
      (names ++ [CodeUnit.withoutColons constant.toList])) :
    describes (CodeUnit.ofDeclaration declaration).name.toList site = true := by
  simp [describes, describedName?, described, chain, CodeUnit.joined_of_regroups regroups,
    CodeUnit.ofDeclaration]

/-- The search finds each header of a unit once, in the order of the walk, and nothing else. The
prefix test lets it into every chain of wrappers around a header. A declared unit is found under its
name however its constants are grouped, and no header is one of two units. -/
theorem unitHeaders_are_described (body : List Node) (loc : Option Location) (unit : String) :
    let spec := Site.root (.program body loc)
    unitHeaders (.program body loc) unit =
        (spec.walk.filter (describes unit.toList)).map (·.node) ∧
      (spec.walk.filter (describes unit.toList)).Nodup ∧
      (∀ site ∈ spec.walk, describes unit.toList site = true →
        ∀ inner outer, site.above = inner ++ outer → outer ≠ [] →
          ∃ names, wrappers? outer = some names ∧ openings names <+: unit.toList) ∧
      (∀ declaration : Site, (CodeUnit.ofDeclaration declaration).name = unit →
        ∀ site ∈ spec.walk, ∀ constant names,
          describedConstant? site.node = some constant → wrappers? site.above = some names →
          CodeUnit.Regroups (CodeUnit.qualifiedSegments declaration)
            (names ++ [CodeUnit.withoutColons constant.toList]) →
          site ∈ spec.walk.filter (describes unit.toList)) ∧
      ∀ other, other ≠ unit → ∀ site ∈ spec.walk.filter (describes unit.toList),
        site ∉ spec.walk.filter (describes other.toList) := by
  refine ⟨unitHeaders_eq body loc unit, (Site.nodup_walk _).filter _, ?_, ?_, ?_⟩
  · intro site _ header inner outer frames below
    exact openings_prefix_of_describes header frames below
  · rintro declaration rfl site member constant names described chain regroups
    exact List.mem_filter.mpr ⟨member, describes_ofDeclaration described chain regroups⟩
  · intro other different site here there
    -- both names are read off the site
    have nameHere := (List.mem_filter.mp here).2
    have nameThere := (List.mem_filter.mp there).2
    simp only [describes, beq_iff_eq] at nameHere nameThere
    rw [nameHere, Option.some.injEq] at nameThere
    exact different (String.toList_inj.mp nameThere.symm)

/-! A class declared under its full name, described inside a module. -/

def wrappedHeader : Node := .call none "describe" [.const "User" none] none none

def wrappingModule : Node := .moduleDef "::Admin" [wrappedHeader] none

def wrappedSpec : Node := .program [wrappingModule] none

def wrappedSite : Site := ⟨wrappedHeader, [(wrappingModule, 0), (wrappedSpec, 0)]⟩

def wrappedDeclaration : Site := ⟨.classDef "Admin::User" none [] none, []⟩

theorem unitHeaders_wrapped :
    (CodeUnit.ofDeclaration wrappedDeclaration).name = "Admin::User" ∧
      wrappedSite ∈ (Site.root wrappedSpec).walk ∧
      describedConstant? wrappedSite.node = some "User" ∧
      wrappers? wrappedSite.above = some ["Admin".toList] ∧
      CodeUnit.Regroups (CodeUnit.qualifiedSegments wrappedDeclaration)
        (["Admin".toList] ++ [CodeUnit.withoutColons "User".toList]) ∧
      wrappedHeader ∈ unitHeaders wrappedSpec "Admin::User" := by
  have named : (CodeUnit.ofDeclaration wrappedDeclaration).name = "Admin::User" := by decide
  have inside : wrappedSite ∈ (Site.root wrappedSpec).walk :=
    Site.mem_walk_root.mpr ⟨rfl, rfl, rfl⟩
  have described : describedConstant? wrappedSite.node = some "User" := rfl
  have chain : wrappers? wrappedSite.above = some ["Admin".toList] := by decide
  have regroups : CodeUnit.Regroups (CodeUnit.qualifiedSegments wrappedDeclaration)
      (["Admin".toList] ++ [CodeUnit.withoutColons "User".toList]) :=
    ⟨[["Admin".toList], ["User".toList]], by decide, by decide, by decide⟩
  obtain ⟨found, _, _, declared, _⟩ := unitHeaders_are_described [wrappingModule] none "Admin::User"
  have header := declared _ named _ inside _ _ described chain regroups
  refine ⟨named, inside, described, chain, regroups, ?_⟩
  rw [wrappedSpec, found]
  exact List.mem_map_of_mem (f := (·.node)) header

end SpecLint.Spec
