import SpecLint.Proofs.Code.Relocation
import SpecLint.Proofs.Routine.Tally
import SpecLint.Proofs.Spec.FocusForm

/-!
# Readings up to focus

A concrete tree is read twice: as it is, and with its places moved to where they are in a changed
source. Some nodes hand on their text as it is, others name calls. If the change keeps the former
and the latter up to focus, both readings have the same form.

## Main result

`form_programOf_relocate`

## Proof strategy

A construct is made of the readings of nodes below it, be it as they are or as statements, so the
step from these to the construct is taken kind by kind.
-/
namespace SpecLint.Spec

open SpecLint.Code
open SpecLint.Routine (attachedBlock? attached_readAll part?_child? nameOf_readAll isBlock isCaseArm
  isElse returnParts returnedOf followers chain_readAll chainRest_elsif chainRest_end
  caseFrom_readAll returnFrom_readAll alternativeArms mem_children_of_attachedBlock?)

/-- Kinds of nodes that stand for their text. -/
def textKinds : List String :=
  ["instance_variable", "constant", "scope_resolution", "simple_symbol", "hash_key_symbol"]

/-- Kinds of literals, which are made of the texts of their parts unless they interpolate. -/
def literalKinds : List String := ["delimited_symbol", "string"]

def interpolates (tree : Concrete) : Bool :=
  tree.namedChildren.any fun child => child.kind = "interpolation"

/-- The nodes whose text a construct hands on as it is. -/
def copied (tree : Concrete) : List Concrete :=
  (if textKinds.contains tree.kind then [tree] else []) ++ tree.under ["name", "operator"] ++
    if literalKinds.contains tree.kind && !interpolates tree then tree.namedChildren else []

/-- What the move of a node has to keep: the texts that are handed on, and names up to focus. -/
structure Keeps (source source' : Source) (place : Nat → Nat) (tree : Concrete) : Prop where
  copied : ∀ part ∈ copied tree,
    textOf source' (part.relocate place) = textOf source part
  name : tree.kind = "identifier" →
    focusForm (textOf source' (tree.relocate place)) = focusForm (textOf source tree)
  call : tree.kind = "call" → ∀ method ∈ tree.child? "method",
    focusForm (textOf source' (method.relocate place)) = focusForm (textOf source method)

/-- Both readings of a node look the same, by themselves and as statements. -/
structure LooksSame (view : Node → Node) (source source' : Source) (place : Nat → Nat)
    (tree : Concrete) : Prop where
  node : view (read source' (tree.relocate place)).node = view (read source tree).node
  statement : view (statement source' (read source' (tree.relocate place))) =
    view (statement source (read source tree))
  statements : (statements source' (read source' (tree.relocate place))).map view =
    (statements source (read source tree)).map view

variable {source source' : Source} {place : Nat → Nat} {tree : Concrete}

/-! ### Parts -/

section Parts

variable {view : Node → Node}

theorem view_nodes {trees : List Concrete}
    (same : ∀ tree ∈ trees, LooksSame view source source' place tree) :
    (((trees.map (Concrete.relocate place)).map (read source')).map (·.node)).map view =
      ((trees.map (read source)).map (·.node)).map view := by
  simp only [List.map_map]
  exact List.map_congr_left fun tree member => (same tree member).node

theorem view_statements {trees : List Concrete}
    (same : ∀ tree ∈ trees, LooksSame view source source' place tree) :
    (((trees.map (Concrete.relocate place)).map (read source')).map (statement source')).map view =
      ((trees.map (read source)).map (statement source)).map view := by
  simp only [List.map_map]
  exact List.map_congr_left fun tree member => (same tree member).statement

variable (same : ∀ child ∈ tree.children, LooksSame view source source' place child)

include same

theorem looksSame_child? {field : String} {child : Concrete}
    (found : tree.child? field = some child) : LooksSame view source source' place child :=
  same child (Concrete.mem_children_of_child? found)

theorem view_nodeOf (field : String) :
    (nodeOf (part? (readAll source' (tree.relocate place).children) field)).map view =
      (nodeOf (part? (readAll source tree.children) field)).map view := by
  rw [part?_child?, part?_child?, Concrete.child?_relocate]
  cases found : tree.child? field with
  | none => simp
  | some child => exact congrArg some (looksSame_child? same found).node

theorem view_getD (fallback : Node) (field : String) :
    view ((nodeOf (part? (readAll source' (tree.relocate place).children) field)).getD fallback) =
      view ((nodeOf (part? (readAll source tree.children) field)).getD fallback) := by
  rw [← Option.getD_map view, ← Option.getD_map view, view_nodeOf same]

theorem view_requiredNode (field : String) :
    view (requiredNode (part? (readAll source' (tree.relocate place).children) field)) =
      view (requiredNode (part? (readAll source tree.children) field)) :=
  view_getD same missingPart field

theorem view_shown :
    ((shownParts (readAll source' (tree.relocate place).children)).map (·.node)).map view =
      ((shownParts (readAll source tree.children)).map (·.node)).map view := by
  rw [shownParts_readAll, shownParts_readAll, Concrete.shown_relocate]
  exact view_nodes fun inner member => same inner (Concrete.mem_children_of_shown member)

theorem view_shownStatements :
    ((shownParts (readAll source' (tree.relocate place).children)).map (statement source')).map
        view =
      ((shownParts (readAll source tree.children)).map (statement source)).map view := by
  rw [shownParts_readAll, shownParts_readAll, Concrete.shown_relocate]
  exact view_statements fun inner member => same inner (Concrete.mem_children_of_shown member)

theorem view_beside (fields : List String) :
    ((partsBeside (readAll source' (tree.relocate place).children) fields).map (·.node)).map view =
      ((partsBeside (readAll source tree.children) fields).map (·.node)).map view := by
  rw [partsBeside_readAll, partsBeside_readAll, Concrete.shownBeside_relocate]
  exact view_nodes fun inner member =>
    same inner (Concrete.mem_children_of_shown (List.mem_filter.mp member).1)

theorem view_statementsOf (field : String) :
    (statementsOf source' (part? (readAll source' (tree.relocate place).children) field)).map view =
      (statementsOf source (part? (readAll source tree.children) field)).map view := by
  rw [part?_child?, part?_child?, Concrete.child?_relocate]
  cases found : tree.child? field with
  | none => rfl
  | some child => exact (looksSame_child? same found).statements

theorem view_bodyOf (headers : List String) :
    (bodyOf source' (readAll source' (tree.relocate place).children) headers).map view =
      (bodyOf source (readAll source tree.children) headers).map view := by
  rw [bodyOf, bodyOf, part?_child?, part?_child?, Concrete.child?_relocate]
  cases found : tree.child? "body" with
  | some body => exact (looksSame_child? same found).statements
  | none =>
    simp only [Option.map_none]
    rw [partsBeside_readAll, partsBeside_readAll, Concrete.shownBeside_relocate]
    exact view_statements fun inner member =>
      same inner (Concrete.mem_children_of_shown (List.mem_filter.mp member).1)

end Parts

/-! ### Constructs -/

section Constructs

variable (below : ∀ inner, Below tree inner → LooksSame form source source' place inner)

include below

theorem of_below : ∀ child ∈ tree.children, LooksSame form source source' place child :=
  fun child isChild => below child (below_child isChild)

theorem below_of_child? {field : String} {child : Concrete}
    (found : tree.child? field = some child) :
    ∀ inner, Below child inner → LooksSame form source source' place inner := fun inner deeper =>
  below inner (deeper.deeper (Concrete.mem_children_of_child? found))

theorem form_chainArm :
    form (chainArm source' (tree.relocate place)
        (readAll source' (tree.relocate place).children)) =
      form (chainArm source tree (readAll source tree.children)) := by
  simp only [chainArm, form, formOption_eq_map, formAll_eq_map, view_nodeOf (of_below below),
    view_statementsOf (of_below below)]

omit below in
/-- The arms of a chain and the alternative at its end. -/
def formRest (rest : List Node × Option (List Node)) : List Node × Option (List Node) :=
  (rest.1.map form, rest.2.map (·.map form))

omit below in
/-- What follows the first arm of a chain is read from the alternative. -/
theorem form_followers (rest : ∀ further, tree.child? "alternative" = some further →
    formRest (chainRest source' (read source' (further.relocate place))) =
      formRest (chainRest source (read source further))) :
    formRest (followers source' (tree.relocate place)) = formRest (followers source tree) := by
  rw [followers, followers, Concrete.child?_relocate]
  cases next : tree.child? "alternative" with
  | none => simp
  | some further => exact rest further next

omit below in
theorem form_chainRest {alternative : Concrete}
    (inside : ∀ inner, Inside alternative inner → LooksSame form source source' place inner) :
    formRest (chainRest source' (read source' (alternative.relocate place))) =
      formRest (chainRest source (read source alternative)) := by
  have kind := alternative.kind_relocate place
  by_cases isElsif : alternative.kind = "elsif"
  · have follow : formRest (followers source' (alternative.relocate place)) =
        formRest (followers source alternative) :=
      -- the alternative is a child of the one before
      form_followers fun further next => form_chainRest fun inner deeper =>
        inside inner (Inside.trans (.child .here (Concrete.mem_children_of_child? next)) deeper)
    rw [chainRest_elsif source' _ (kind.trans isElsif), chainRest_elsif source _ isElsif, formRest,
      formRest, List.map_cons, List.map_cons,
      form_chainArm fun inner deeper => inside inner deeper.inside]
    exact congrArg (fun rest => (form (chainArm source alternative
      (readAll source alternative.children)) :: rest.1, rest.2)) follow
  · rw [chainRest_end source' _ (kind ▸ isElsif), chainRest_end source _ isElsif]
    exact congrArg (fun nodes => ([], some nodes)) (inside alternative .here).statements
termination_by sizeOf alternative
decreasing_by exact Concrete.sizeOf_lt_of_mem_children (Concrete.mem_children_of_child? next)

theorem form_chain (written : Branching) (negated : Bool) :
    form (chain source' written negated (tree.relocate place)
        (readAll source' (tree.relocate place).children)) =
      form (chain source written negated tree (readAll source tree.children)) := by
  have follow : formRest (followers source' (tree.relocate place)) =
      formRest (followers source tree) :=
    form_followers fun further next => form_chainRest fun inner inside =>
      below inner (below_of_inside (Concrete.mem_children_of_child? next) inside)
  rw [formRest, formRest, Prod.mk.injEq] at follow
  rw [chain_readAll, chain_readAll]
  simp only [form, formAll_eq_map, formElse_eq_map, List.map_cons, form_chainArm below, follow.1,
    follow.2]

theorem form_modified (negated : Bool) :
    form (modified source' negated (tree.relocate place)
        (readAll source' (tree.relocate place).children)) =
      form (modified source negated tree (readAll source tree.children)) := by
  have body : ((part? (readAll source' (tree.relocate place).children) "body").toList.map
      (statement source')).map form =
        ((part? (readAll source tree.children) "body").toList.map (statement source)).map form := by
    rw [part?_child?, part?_child?, Concrete.child?_relocate]
    cases found : tree.child? "body" with
    | none => simp
    | some child => exact congrArg ([·]) (looksSame_child? (of_below below) found).statement
  simp only [modified, form, formAll_eq_map, formOption_eq_map, formElse_eq_map, List.map_cons,
    List.map_nil, Option.map_none, view_nodeOf (of_below below), body]

theorem form_ternaryOf :
    form (ternaryOf source' (tree.relocate place)
        (readAll source' (tree.relocate place).children)) =
      form (ternaryOf source tree (readAll source tree.children)) := by
  have branch (field : String) :
      (nodeOf (part? (readAll source' (tree.relocate place).children) field)).toList.map form =
        (nodeOf (part? (readAll source tree.children) field)).toList.map form := by
    rw [← Option.toList_map, ← Option.toList_map, view_nodeOf (of_below below)]
  simp only [ternaryOf, form, formAll_eq_map, formOption_eq_map, formElse_eq_map, List.map_cons,
    List.map_nil, Option.map_some, view_nodeOf (of_below below), branch]

theorem form_caseArm :
    form (caseArm source' (read source' (tree.relocate place))) =
      form (caseArm source (read source tree)) := by
  have patterns : ((partsNamed (readAll source' (tree.relocate place).children) "pattern").map
      (·.node)).map form =
        ((partsNamed (readAll source tree.children) "pattern").map (·.node)).map form := by
    rw [partsNamed_readAll, partsNamed_readAll, Concrete.children_relocate,
      Concrete.filter_relocate place _ _ fun child => by rw [Concrete.field_relocate]]
    exact view_nodes fun inner member => below inner (below_child (List.mem_filter.mp member).1)
  simp only [caseArm, parts_read, form, formAll_eq_map, formOption_eq_map, Option.map_some,
    view_statementsOf (of_below below), patterns]

theorem form_caseFrom :
    form (caseFrom source' (tree.relocate place)
        (readAll source' (tree.relocate place).children)) =
      form (caseFrom source tree (readAll source tree.children)) := by
  have arms : (((((tree.relocate place).namedChildren.filter isCaseArm).map (read source')).map
      (caseArm source')).map form) =
        (((tree.namedChildren.filter isCaseArm).map (read source)).map (caseArm source)).map
          form := by
    rw [Concrete.namedChildren_relocate, Concrete.filter_relocate place _ _ fun child => by
      rw [isCaseArm, isCaseArm, Concrete.kind_relocate]]
    simp only [List.map_map]
    refine List.map_congr_left fun arm member => ?_
    have isChild := Concrete.mem_children_of_namedChildren (List.mem_filter.mp member).1
    exact form_caseArm fun inner deeper => below inner (deeper.deeper isChild)
  have orelse : ((((tree.relocate place).namedChildren.filter isElse).map
      (read source')).getLast?.map (statements source')).map (·.map form) =
        (((tree.namedChildren.filter isElse).map (read source)).getLast?.map
          (statements source)).map (·.map form) := by
    rw [Concrete.namedChildren_relocate, Concrete.filter_relocate place _ _ fun child => by
      rw [isElse, isElse, Concrete.kind_relocate]]
    simp only [List.getLast?_map]
    cases last : (tree.namedChildren.filter isElse).getLast? with
    | none => simp
    | some child =>
      have member := (List.mem_filter.mp (List.mem_of_getLast? last)).1
      exact congrArg some
        (below child (below_child (Concrete.mem_children_of_namedChildren member))).statements
  rw [caseFrom_readAll, caseFrom_readAll]
  simp only [form, formAll_eq_map, formOption_eq_map, formElse_eq_map,
    view_nodeOf (of_below below), arms, orelse]

theorem form_blockOf :
    form (blockOf source' (read source' (tree.relocate place))) =
      form (blockOf source (read source tree)) := by
  simp only [blockOf, parts_read, form, formAll_eq_map, view_bodyOf (of_below below)]

omit below in
theorem form_returnedOf (values : List Node) (loc : Option Location) :
    form (returnedOf values loc) = returnedOf (values.map form) none := by
  cases values with
  | nil => rfl
  | cons first rest =>
    cases rest with
    | nil => rfl
    | cons second rest => simp [returnedOf, form]

theorem form_returnFrom :
    form (returnFrom source' (tree.relocate place)
        (readAll source' (tree.relocate place).children)) =
      form (returnFrom source tree (readAll source tree.children)) := by
  have parts : returnParts (tree.relocate place) =
      (returnParts tree).map (Concrete.relocate place) := by
    rw [returnParts, Concrete.namedChildren_relocate, List.flatMap_map, returnParts,
      List.map_flatMap]
    congr 1
    funext child
    rw [Concrete.kind_relocate, Concrete.namedChildren_relocate]
    split
    · rfl
    · split <;> rfl
  have values : ((((returnParts tree).map (Concrete.relocate place)).map (read source')).map
      (·.node)).map form = (((returnParts tree).map (read source)).map (·.node)).map form :=
    view_nodes fun inner member => below inner (Routine.below_returnParts member)
  rw [returnFrom_readAll, returnFrom_readAll, parts, form_returnedOf, form_returnedOf, values]

theorem form_unaryFrom :
    form (unaryFrom source' (tree.relocate place)
        (readAll source' (tree.relocate place).children)) =
      form (unaryFrom source tree (readAll source tree.children)) := by
  have operand := view_requiredNode (of_below below) "operand"
  rw [unaryFrom, unaryFrom, part?_child?, part?_child?, part?_child?, part?_child?,
    Concrete.child?_relocate, Concrete.child?_relocate] at *
  cases tree.child? "operator" with
  | none => simpa [form] using operand
  | some operator =>
    simp only [Option.map_some, Reading.kind, tree_read, Concrete.kind_relocate]
    split <;> simpa [form] using operand

theorem form_parenthesized :
    form (parenthesized source' (tree.relocate place)
        (readAll source' (tree.relocate place).children)) =
      form (parenthesized source tree (readAll source tree.children)) := by
  have inner := view_shown (of_below below)
  rw [shownParts_readAll, shownParts_readAll, Concrete.shown_relocate] at inner
  rw [parenthesized, parenthesized, shownParts_readAll, shownParts_readAll,
    Concrete.shown_relocate]
  cases shown : tree.shown with
  | nil => rfl
  | cons first rest =>
    rw [shown] at inner
    cases rest with
    | nil => exact List.singleton_inj.mp inner
    | cons second rest =>
      exact congrArg (fun nodes => Node.other "parenthesized" nodes none)
        ((formAll_eq_map _).trans (inner.trans (formAll_eq_map _).symm))

theorem form_superclassOf :
    (superclassOf (readAll source' (tree.relocate place).children)).map form =
      (superclassOf (readAll source tree.children)).map form := by
  rw [superclassOf, superclassOf, part?_child?, part?_child?, Concrete.child?_relocate]
  cases found : tree.child? "superclass" with
  | none => simp
  | some child =>
    have isChild := Concrete.mem_children_of_child? found
    simp only [Option.map_some, Option.bind_some, parts_read, namedParts_readAll,
      Concrete.namedChildren_relocate, List.head?_map]
    cases first : child.namedChildren.head? with
    | none => simp
    | some inner =>
      have member := Concrete.mem_children_of_namedChildren (List.mem_of_head? first)
      exact congrArg some (below inner (Below.deeper isChild (below_child member))).node

end Constructs

/-! ### Texts and names -/

theorem literalContent?_readAll (source : Source) (tree : Concrete) :
    literalContent? source (readAll source tree.children) =
      if interpolates tree then none
      else some (String.join (tree.namedChildren.map (textOf source))) := by
  have kinds : (namedParts (readAll source tree.children)).any
      (fun part => part.kind = "interpolation") = interpolates tree := by
    rw [namedParts_readAll, List.any_map, interpolates]
    congr 1
    funext child
    simp only [Function.comp_apply, Reading.kind, tree_read]
  have texts : (namedParts (readAll source tree.children)).map
      (fun part => textOf source part.tree) = tree.namedChildren.map (textOf source) := by
    rw [namedParts_readAll, List.map_map]
    exact List.map_congr_left fun child _ => by simp only [Function.comp_apply, tree_read]
  simp only [literalContent?, kinds, texts]

theorem interpolates_relocate (place : Nat → Nat) (tree : Concrete) :
    interpolates (tree.relocate place) = interpolates tree := by
  rw [interpolates, Concrete.namedChildren_relocate, List.any_map, interpolates]
  congr 1
  funext child
  rw [Function.comp_apply, Concrete.kind_relocate]

section Texts

variable (keeps : Keeps source source' place tree)

include keeps

theorem nameOf_relocate {field : String} (handedOn : field ∈ ["name", "operator"]) :
    nameOf source' (readAll source' (tree.relocate place).children) field =
      nameOf source (readAll source tree.children) field := by
  rw [nameOf_readAll, nameOf_readAll, Concrete.child?_relocate]
  cases found : tree.child? field with
  | none => simp
  | some child =>
    refine keeps.copied child (List.mem_append_left _ (List.mem_append_right _ ?_))
    exact List.mem_flatMap.mpr ⟨field, handedOn, Option.mem_toList.mpr found⟩

theorem textOf_relocate_self (isText : textKinds.contains tree.kind = true) :
    textOf source' (tree.relocate place) = textOf source tree := by
  refine keeps.copied tree (List.mem_append_left _ (List.mem_append_left _ ?_))
  rw [if_pos isText]
  exact List.mem_singleton_self tree

theorem literalContent?_relocate (isLiteral : literalKinds.contains tree.kind = true) :
    literalContent? source' (readAll source' (tree.relocate place).children) =
      literalContent? source (readAll source tree.children) := by
  rw [literalContent?_readAll, literalContent?_readAll, interpolates_relocate,
    Concrete.namedChildren_relocate, List.map_map]
  split
  · rfl
  next whole =>
    refine congrArg (fun texts => some (String.join texts)) (List.map_congr_left ?_)
    intro child member
    refine keeps.copied child (List.mem_append_right _ ?_)
    rw [isLiteral, Bool.eq_false_iff.mpr whole]
    exact member

end Texts

/-! ### Calls -/

/-- The name in a call. -/
def calledName (source : Source) (tree : Concrete) : String :=
  (tree.child? "method").elim "call" (textOf source)

/-- The arguments of a call. -/
def argumentNodes (source : Source) (tree : Concrete) : List Node :=
  (part? (readAll source tree.children) "arguments").elim [] fun part =>
    (shownParts part.parts).map (·.node)

theorem callFrom_readAll (source : Source) (tree : Concrete) :
    callFrom source tree (readAll source tree.children) =
      .call (nodeOf (part? (readAll source tree.children) "receiver")) (calledName source tree)
        (argumentNodes source tree)
        (((attachedBlock? tree).map (read source)).map (blockOf source))
        (locationOf source tree) := by
  have name : (part? (readAll source tree.children) "method").elim "call"
      (fun part => textOf source part.tree) = calledName source tree := by
    rw [part?_child?, calledName]
    cases tree.child? "method" with
    | none => simp
    | some method => exact congrArg (textOf source) (tree_read source method)
  rw [callFrom, name, attached_readAll]
  rfl

theorem focusForm_calledName (keeps : Keeps source source' place tree)
    (isCall : tree.kind = "call") :
    focusForm (calledName source' (tree.relocate place)) = focusForm (calledName source tree) := by
  rw [calledName, calledName, Concrete.child?_relocate]
  cases found : tree.child? "method" with
  | none => simp
  | some method => exact keeps.call isCall method found

section Calls

variable (below : ∀ inner, Below tree inner → LooksSame form source source' place inner)

include below

theorem form_args :
    (argumentNodes source' (tree.relocate place)).map form =
      (argumentNodes source tree).map form := by
  rw [argumentNodes, argumentNodes, part?_child?, part?_child?, Concrete.child?_relocate]
  cases found : tree.child? "arguments" with
  | none => simp
  | some list =>
    simp only [Option.map_some, Option.elim_some, parts_read]
    exact view_shown (of_below (below_of_child? below found))

theorem form_attached :
    ((attachedBlock? (tree.relocate place)).map (read source')).map (fun part =>
        form (blockOf source' part)) =
      ((attachedBlock? tree).map (read source)).map fun part => form (blockOf source part) := by
  have same : attachedBlock? (tree.relocate place) =
      (attachedBlock? tree).map (Concrete.relocate place) := by
    have blocks : isBlock ∘ Concrete.relocate place = isBlock := by
      funext child
      rw [Function.comp_apply, isBlock, isBlock, Concrete.kind_relocate]
    rw [attachedBlock?, Concrete.child?_relocate, Concrete.namedChildren_relocate, List.find?_map,
      blocks, attachedBlock?, Option.map_or]
  rw [same]
  cases found : attachedBlock? tree with
  | none => simp
  | some block =>
    exact congrArg some (form_blockOf fun inner deeper =>
      below inner (deeper.deeper (mem_children_of_attachedBlock? found)))

theorem form_callFrom (keeps : Keeps source source' place tree) (isCall : tree.kind = "call") :
    form (callFrom source' (tree.relocate place)
        (readAll source' (tree.relocate place).children)) =
      form (callFrom source tree (readAll source tree.children)) := by
  have attached := form_attached below
  simp only [callFrom_readAll, form, formAll_eq_map, formOption_eq_map, Option.map_map,
    Function.comp_def, view_nodeOf (of_below below) "receiver", form_args below,
    focusForm_calledName keeps isCall] at attached ⊢
  rw [attached]

end Calls

/-! ### The step -/

section Step

variable (keeps : Keeps source source' place tree)
  (below : ∀ inner, Below tree inner → LooksSame form source source' place inner)

include keeps below

theorem form_node_step :
    form (read source' (tree.relocate place)).node = form (read source tree).node := by
  have required := view_requiredNode (of_below below)
  have onItself := view_getD (of_below below) (.selfRef none)
  have body := view_bodyOf (of_below below)
  have named (field : String) (handedOn : field ∈ ["name", "operator"]) :=
    nameOf_relocate keeps handedOn
  have text {kind : String} (isKind : tree.kind = kind) (isText : textKinds.contains kind = true) :=
    textOf_relocate_self keeps (isKind ▸ isText)
  rw [node_read, node_read]
  unfold build
  dsimp only
  rw [Concrete.kind_relocate]
  split
  -- the cases stand in the order of the kinds
  next => simp only [form, formAll_eq_map, view_shownStatements (of_below below)]
  next =>
    simp only [form, formAll_eq_map, formOption_eq_map, named "name" (by simp),
      form_superclassOf below, body]
  next => simp only [form, formAll_eq_map, named "name" (by simp), body]
  next => simp only [form, formAll_eq_map, onItself, body]
  next => simp only [form, formAll_eq_map, named "name" (by simp), body]
  next => simp only [form, formAll_eq_map, named "name" (by simp), onItself, body]
  next isCall => exact form_callFrom below keeps isCall
  next => simp only [form, formAll_eq_map, body]
  next => simp only [form, formAll_eq_map, body]
  next => exact form_chain below _ _
  next => exact form_chain below _ _
  next => exact form_modified below _
  next => exact form_modified below _
  next => exact form_ternaryOf below
  next => exact form_caseFrom below
  next => exact form_caseFrom below
  next => exact form_returnFrom below
  next => simp only [form, required, named "operator" (by simp)]
  next => simp only [form, required]
  next => exact form_unaryFrom below
  next => exact form_parenthesized below
  next => simp only [form, formAll_eq_map, required, view_beside (of_below below)]
  next kind => simp only [form, text kind rfl]
  next kind => simp only [form, keeps.name kind]
  next => rfl
  next kind => simp only [form, text kind rfl]
  next kind => simp only [form, text kind rfl]
  next kind => simp only [form, text kind rfl]
  next kind => simp only [form, text kind rfl]
  next kind =>
    rw [literalContent?_relocate keeps (by rw [kind]; rfl)]
    split <;> rfl
  next kind => simp only [form, literalContent?_relocate keeps (by rw [kind]; rfl)]
  next => simp only [form, formAll_eq_map, view_shown (of_below below)]

theorem form_statement_step :
    form (statement source' (read source' (tree.relocate place))) =
      form (statement source (read source tree)) := by
  have bare (source : Source) (tree : Concrete) :
      form (.call none (textOf source tree) [] none (locationOf source tree)) =
        .call none (focusForm (textOf source tree)) [] none none := by
    simp only [form, formAll_eq_map, formOption_eq_map, List.map_nil, Option.map_none]
  simp only [statement, Reading.kind, tree_read, Concrete.kind_relocate]
  split
  next isName => rw [bare, bare, keeps.name isName]
  next => exact form_node_step keeps below

theorem looksSame_step : LooksSame form source source' place tree where
  node := form_node_step keeps below
  statement := form_statement_step keeps below
  statements := by
    simp only [statements, Reading.kind, tree_read, parts_read, Concrete.kind_relocate]
    split
    · exact view_shownStatements (of_below below)
    · exact congrArg ([·]) (form_statement_step keeps below)

end Step

/-! ### Whole trees -/

theorem looksSame_of_keeps {tree : Concrete}
    (keeps : ∀ inner, Inside tree inner → Keeps source source' place inner) :
    LooksSame form source source' place tree := by
  refine looksSame_step (keeps tree .here) fun inner below => ?_
  have smaller := below.sizeOf_lt
  exact looksSame_of_keeps fun deeper inside => keeps deeper (below.inside.trans inside)
termination_by sizeOf tree

/-- A tree as a program, which wraps a root of another kind. -/
def asProgram : Node → Node
  | .program body loc => .program body loc
  | root => .program [root] none

theorem form_programOf (source : Source) (tree : Concrete) :
    form (programOf source tree) = asProgram (form (read source tree).node) := by
  unfold programOf
  generalize (read source tree).node = node
  cases node <;> simp [form, asProgram]

/-- A program that is read from a moved tree has the same form. -/
theorem form_programOf_relocate
    (keeps : ∀ inner, Inside tree inner → Keeps source source' place inner) :
    form (programOf source' (tree.relocate place)) = form (programOf source tree) := by
  rw [form_programOf, form_programOf, (looksSame_of_keeps keeps).node]

end SpecLint.Spec
