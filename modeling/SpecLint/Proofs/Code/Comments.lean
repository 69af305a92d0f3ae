import Mathlib.Data.List.Forall2
import Mathlib.Logic.Relation
import SpecLint.Proofs.Spec.FocusedReading

/-!
# Comments

A comment may stand between any two nodes of a concrete tree. A construct that lists its parts skips
it, and one that asks for a field or for a kind of node passes over it. But three lists are taken as
they stand: the arguments of a return are all its values, what stands first in the field of the
superclass is the superclass, and the parts of a literal are joined to its text. A comment anywhere
else leaves no trace.

## Main result

`node_read_of_comments`

## Proof strategy

Comments are put in one at a time. What a construct can see of one of its parts, and of the parts of
that part, is gathered in one relation. A comment among the parts, or anywhere below one of them,
keeps what is seen of the construct in turn, so the proof is by induction on how deep it stands.
-/
namespace SpecLint.Code

open SpecLint.Routine (part?_child? followers chain_readAll chainRest_elsif chainRest_end
  returnedOf)
open SpecLint.Spec (literalKinds interpolates literalContent?_readAll)

namespace Concrete

/-- A comment, which its parent holds under no field name. -/
def isComment (tree : Concrete) : Bool :=
  tree.kind == "comment" && tree.named && tree.field.isNone

/-- The node with other children, at the same place. -/
def withChildren (tree : Concrete) (children : List Concrete) : Concrete :=
  node tree.kind tree.named tree.missing tree.start tree.stop tree.field children

variable {tree : Concrete} (isComment : tree.isComment = true)

include isComment

theorem kind_of_isComment : tree.kind = "comment" := by
  simp only [Concrete.isComment, Bool.and_eq_true, beq_iff_eq] at isComment
  exact isComment.1.1

theorem field_of_isComment : tree.field = none := by
  simp only [Concrete.isComment, Bool.and_eq_true, Option.isNone_iff_eq_none] at isComment
  exact isComment.2

end Concrete

/-- A tree with one comment put among the children of one of its nodes. Whether it may stand there
is decided by the kind of the parent of that node, if any, the node itself and its children in front
of the comment. -/
inductive Commented (admits : Option String → Concrete → List Concrete → Prop) :
    Option String → Concrete → Concrete → Prop where
  | among {holder : Option String} {tree comment : Concrete} (before after : List Concrete)
      (children : tree.children = before ++ after) (isComment : comment.isComment = true)
      (admitted : admits holder tree before) :
      Commented admits holder tree (tree.withChildren (before ++ comment :: after))
  | within {holder : Option String} {tree child more : Concrete} (before after : List Concrete)
      (children : tree.children = before ++ child :: after)
      (deeper : Commented admits (some tree.kind) child more) :
      Commented admits holder tree (tree.withChildren (before ++ more :: after))

/-- Whether a comment would be read with the rest: as a value that is returned, as the superclass or
as text of a literal. -/
def readsComment (holder : Option String) (tree : Concrete) (before : List Concrete) : Bool :=
  holder == some "return" && tree.kind == "argument_list" ||
    holder == some "class" && tree.field == some "superclass" && !before.any (·.named) ||
    literalKinds.contains tree.kind && !interpolates tree

/-- The places at which a comment is dropped. -/
abbrev Unread (holder : Option String) (tree : Concrete) (before : List Concrete) : Prop :=
  readsComment holder tree before = false

/-! ### What is seen of a part -/

/-- Two readings of a part that are the same to a construct of the kind `holder`. -/
structure SeenAlike (source : Source) (holder : Option String) (part part' : Reading) : Prop where
  kind : part'.kind = part.kind
  named : part'.tree.named = part.tree.named
  field : part'.tree.field = part.tree.field
  text : textOf source part'.tree = textOf source part.tree
  loc : locationOf source part'.tree = locationOf source part.tree
  node : part'.node = part.node
  shown : (shownParts part'.parts).map (·.node) = (shownParts part.parts).map (·.node)
  statements : statements source part' = statements source part
  block : blockOf source part' = blockOf source part
  caseArm : caseArm source part' = caseArm source part
  chainRest : chainRest source part' = chainRest source part
  values : holder = some "return" → part.kind = "argument_list" →
    (namedParts part'.parts).map (·.node) = (namedParts part.parts).map (·.node)
  superclass : holder = some "class" → part.tree.field = some "superclass" →
    (namedParts part'.parts).head?.map (·.node) = (namedParts part.parts).head?.map (·.node)

/-- Parts with a comment among them or within one of them. -/
inductive CommentedParts (source : Source) (kind : String) :
    List Reading → List Reading → Prop where
  | among {before after : List Reading} {comment : Reading}
      (isComment : comment.tree.isComment = true) :
      CommentedParts source kind (before ++ after) (before ++ comment :: after)
  | within {before after : List Reading} {part part' : Reading}
      (same : SeenAlike source (some kind) part part') :
      CommentedParts source kind (before ++ part :: after) (before ++ part' :: after)

variable {source : Source} {kind : String} {parts parts' : List Reading}

theorem SeenAlike.refl {holder : Option String} (part : Reading) :
    SeenAlike source holder part part := by
  constructor <;> intros <;> rfl

instance {holder : Option String} : Std.Refl (SeenAlike source holder) := ⟨SeenAlike.refl⟩

theorem SeenAlike.statement {holder : Option String} {part part' : Reading}
    (same : SeenAlike source holder part part') :
    statement source part' = Code.statement source part := by
  rw [Code.statement, Code.statement, same.kind, same.text, same.loc, same.node]

theorem forall₂_within {holder : Option String} {part part' : Reading} {before after : List Reading}
    (same : SeenAlike source holder part part') :
    List.Forall₂ (SeenAlike source holder) (before ++ part :: after) (before ++ part' :: after) :=
  List.rel_append (List.forall₂_refl _) (.cons same (List.forall₂_refl _))

theorem map_eq_of_forall₂ {α β : Type} {R : α → α → Prop} {items items' : List α} {f : α → β}
    (related : List.Forall₂ R items items') (same : ∀ item item', R item item' → f item' = f item) :
    items'.map f = items.map f := by
  induction related with
  | nil => rfl
  | cons head _ ih => rw [List.map_cons, List.map_cons, same _ _ head, ih]

theorem flatMap_filter {α β : Type} (items : List α) {test : α → Bool} {f : α → List β}
    (empty : ∀ item, test item = false → f item = []) :
    (items.filter test).flatMap f = items.flatMap f := by
  induction items with
  | nil => rfl
  | cons item rest ih =>
    rw [List.filter_cons, List.flatMap_cons, ← ih]
    cases kept : test item with
    | true => exact List.flatMap_cons
    | false => rw [empty item kept, List.nil_append, if_neg Bool.false_ne_true]

/-- Lists whose items are related begin with related items, if they have any. -/
theorem head?_of_forall₂ {α : Type} {R : α → α → Prop} {items items' : List α}
    (related : List.Forall₂ R items items') :
    items.head? = none ∧ items'.head? = none ∨
      ∃ item item', items.head? = some item ∧ items'.head? = some item' ∧ R item item' := by
  cases related with
  | nil => exact .inl ⟨rfl, rfl⟩
  | cons first _ => exact .inr ⟨_, _, rfl, rfl, first⟩

/-! ### Choosing among parts -/

section Choice

variable (commented : CommentedParts source kind parts parts')

include commented

/-- Whatever is chosen passes over the comment. -/
theorem CommentedParts.filter {test : Reading → Bool}
    (agrees : ∀ part part', SeenAlike source (some kind) part part' → test part' = test part)
    (passes : ∀ part : Reading, part.tree.isComment = true → test part = false) :
    List.Forall₂ (SeenAlike source (some kind)) (parts.filter test) (parts'.filter test) := by
  cases commented with
  | @among before after comment isComment =>
    rw [List.filter_append, List.filter_append, List.filter_cons, passes comment isComment,
      if_neg Bool.false_ne_true]
    exact List.rel_append (List.forall₂_refl _) (List.forall₂_refl _)
  | @within before after part part' same =>
    exact List.rel_filter (R := SeenAlike source (some kind))
      (fun _ _ alike => Bool.eq_iff_iff.mp (agrees _ _ alike).symm) (forall₂_within same)

theorem forall₂_shownParts :
    List.Forall₂ (SeenAlike source (some kind)) (shownParts parts) (shownParts parts') := by
  simp only [shownParts, namedParts, List.filter_filter]
  refine commented.filter (fun part part' same => ?_) fun part isComment => ?_
  · rw [same.kind, same.named]
  · rw [Reading.kind, Concrete.kind_of_isComment isComment]
    rfl

theorem forall₂_partsBeside (fields : List String) :
    List.Forall₂ (SeenAlike source (some kind)) (partsBeside parts fields)
      (partsBeside parts' fields) :=
  List.rel_filter (R := SeenAlike source (some kind)) (fun _ _ same => by simp only [same.field])
    (forall₂_shownParts commented)

theorem forall₂_partsNamed (field : String) :
    List.Forall₂ (SeenAlike source (some kind)) (partsNamed parts field)
      (partsNamed parts' field) := by
  refine commented.filter (fun part part' same => ?_) fun part isComment => ?_
  · rw [same.field]
  · rw [Concrete.field_of_isComment isComment]
    rfl

theorem forall₂_namedParts_filter (test : String → Bool) (passes : test "comment" = false) :
    List.Forall₂ (SeenAlike source (some kind))
      ((namedParts parts).filter fun part => test part.kind)
      ((namedParts parts').filter fun part => test part.kind) := by
  simp only [namedParts, List.filter_filter]
  refine commented.filter (fun part part' same => ?_) fun part isComment => ?_
  · rw [same.kind, same.named]
  · rw [Reading.kind, Concrete.kind_of_isComment isComment, passes, Bool.false_and]

theorem part?_alike (field : String) :
    part? parts field = none ∧ part? parts' field = none ∨
      ∃ part part', part? parts field = some part ∧ part? parts' field = some part' ∧
        SeenAlike source (some kind) part part' := by
  rw [part?, part?, ← List.head?_filter, ← List.head?_filter]
  exact head?_of_forall₂ (forall₂_partsNamed commented field)

theorem map_part? {β : Type} {f : Reading → β}
    (same : ∀ part part', SeenAlike source (some kind) part part' → f part' = f part)
    (field : String) : (part? parts' field).map f = (part? parts field).map f := by
  obtain ⟨none, none'⟩ | ⟨part, part', found, found', alike⟩ := part?_alike commented field
  · rw [none, none']
  · rw [found, found', Option.map_some, Option.map_some, same part part' alike]

theorem elim_part? {β : Type} {f : Reading → β}
    (same : ∀ part part', SeenAlike source (some kind) part part' → f part' = f part) (absent : β)
    (field : String) :
    (part? parts' field).elim absent f = (part? parts field).elim absent f := by
  simpa only [Option.elim_map, Function.id_comp] using
    congrArg (fun found => found.elim absent id) (map_part? commented same field)

end Choice

/-! ### Values of a return -/

/-- The values that a part of a return stands for. -/
def valuesOf (part : Reading) : List Node :=
  if part.kind = "argument_list" then (namedParts part.parts).map (·.node)
  else if skippedKinds.contains part.kind then []
  else [part.node]

theorem returnFrom_eq (tree : Concrete) :
    returnFrom source tree parts =
      returnedOf ((namedParts parts).flatMap valuesOf) (locationOf source tree) :=
  rfl

theorem SeenAlike.valuesOf {part part' : Reading}
    (same : SeenAlike source (some "return") part part') : valuesOf part' = valuesOf part := by
  simp only [Code.valuesOf, same.kind, same.node]
  split
  next isList => exact same.values rfl isList
  next => rfl

/-- All values stand in parts that count, since an argument list does. -/
theorem flatMap_valuesOf (parts : List Reading) :
    (shownParts parts).flatMap valuesOf = (namedParts parts).flatMap valuesOf := by
  refine flatMap_filter _ fun part counts => ?_
  have skipped : skippedKinds.contains part.kind = true := by
    rwa [Bool.not_eq_false'] at counts
  have noList : part.kind ≠ "argument_list" := by
    intro isList
    rw [isList] at skipped
    exact absurd skipped (by decide)
  rw [valuesOf, if_neg noList, if_pos skipped]

/-! ### Constructs -/

section Constructs

variable {tree : Concrete} {children : List Concrete}
  (commented : CommentedParts source tree.kind (readAll source tree.children)
    (readAll source children))

include commented

theorem shown_of_comment :
    (shownParts (readAll source children)).map (·.node) =
      (shownParts (readAll source tree.children)).map (·.node) :=
  map_eq_of_forall₂ (forall₂_shownParts commented) fun _ _ same => same.node

theorem shownStatements_of_comment :
    (shownParts (readAll source children)).map (statement source) =
      (shownParts (readAll source tree.children)).map (statement source) :=
  map_eq_of_forall₂ (forall₂_shownParts commented) fun _ _ same => same.statement

theorem beside_of_comment (fields : List String) :
    (partsBeside (readAll source children) fields).map (·.node) =
      (partsBeside (readAll source tree.children) fields).map (·.node) :=
  map_eq_of_forall₂ (forall₂_partsBeside commented fields) fun _ _ same => same.node

theorem nodeOf_of_comment (field : String) :
    nodeOf (part? (readAll source children) field) =
      nodeOf (part? (readAll source tree.children) field) :=
  map_part? commented (fun _ _ same => same.node) field

theorem requiredNode_of_comment (field : String) :
    requiredNode (part? (readAll source children) field) =
      requiredNode (part? (readAll source tree.children) field) :=
  congrArg (·.getD missingPart) (nodeOf_of_comment commented field)

theorem nameOf_of_comment (field : String) :
    nameOf source (readAll source children) field =
      nameOf source (readAll source tree.children) field :=
  elim_part? commented (fun _ _ same => same.text) "" field

theorem statementsOf_of_comment (field : String) :
    statementsOf source (part? (readAll source children) field) =
      statementsOf source (part? (readAll source tree.children) field) := by
  obtain ⟨none, none'⟩ | ⟨part, part', found, found', same⟩ := part?_alike commented field
  · rw [none, none']
  · rw [found, found']
    exact same.statements

theorem bodyOf_of_comment (headers : List String) :
    bodyOf source (readAll source children) headers =
      bodyOf source (readAll source tree.children) headers := by
  unfold bodyOf
  obtain ⟨none, none'⟩ | ⟨part, part', found, found', same⟩ := part?_alike commented "body"
  · rw [none, none']
    exact map_eq_of_forall₂ (forall₂_partsBeside commented headers) fun _ _ same => same.statement
  · rw [found, found']
    exact same.statements

theorem chainArm_of_comment :
    chainArm source (tree.withChildren children) (readAll source children) =
      chainArm source tree (readAll source tree.children) := by
  rw [chainArm, chainArm, nodeOf_of_comment commented, statementsOf_of_comment commented]
  rfl

theorem followers_of_comment :
    followers source (tree.withChildren children) = followers source tree := by
  have rest := elim_part? commented (fun _ _ same => same.chainRest) ([], none) "alternative"
  have after := part?_child? source (tree.withChildren children) "alternative"
  change part? (readAll source children) "alternative" = _ at after
  rw [after, part?_child?, Option.elim_map, Option.elim_map] at rest
  exact rest

theorem chain_of_comment (written : Branching) (negated : Bool) :
    chain source written negated (tree.withChildren children) (readAll source children) =
      chain source written negated tree (readAll source tree.children) := by
  rw [chain_readAll source tree, ← chainArm_of_comment commented, ← followers_of_comment commented]
  exact chain_readAll source (tree.withChildren children) written negated

theorem modified_of_comment (negated : Bool) :
    modified source negated (tree.withChildren children) (readAll source children) =
      modified source negated tree (readAll source tree.children) := by
  have body := map_part? commented (fun _ _ same => same.statement) "body"
  simp only [modified, nodeOf_of_comment commented, ← Option.toList_map, body]
  rfl

theorem ternaryOf_of_comment :
    ternaryOf source (tree.withChildren children) (readAll source children) =
      ternaryOf source tree (readAll source tree.children) := by
  simp only [ternaryOf, nodeOf_of_comment commented]
  rfl

theorem caseFrom_of_comment :
    caseFrom source (tree.withChildren children) (readAll source children) =
      caseFrom source tree (readAll source tree.children) := by
  have arms := map_eq_of_forall₂
    (forall₂_namedParts_filter commented (fun kind => kind = "when" ∨ kind = "in_clause") rfl)
    fun _ _ same => same.caseArm
  have orelse := map_eq_of_forall₂
    (forall₂_namedParts_filter commented (fun kind => kind = "else") rfl)
    fun _ _ same => same.statements
  simp only [caseFrom, nodeOf_of_comment commented, ← List.getLast?_map, arms, orelse]
  rfl

theorem callFrom_of_comment :
    callFrom source (tree.withChildren children) (readAll source children) =
      callFrom source tree (readAll source tree.children) := by
  have args := elim_part? commented (fun _ _ same => same.shown) [] "arguments"
  have name := elim_part? commented (fun _ _ same => same.text) "call" "method"
  have listed := map_part? commented (fun _ _ same => same.block) "block"
  have first := map_eq_of_forall₂
    (forall₂_namedParts_filter commented (fun kind => kind = "do_block" ∨ kind = "block") rfl)
    fun _ _ same => same.block
  simp only [callFrom, nodeOf_of_comment commented, args, name, Option.map_or, listed,
    ← List.head?_filter, ← List.head?_map, first]
  rfl

theorem unaryFrom_of_comment :
    unaryFrom source (tree.withChildren children) (readAll source children) =
      unaryFrom source tree (readAll source tree.children) := by
  simp only [unaryFrom, requiredNode_of_comment commented]
  obtain ⟨none, none'⟩ | ⟨part, part', found, found', same⟩ := part?_alike commented "operator"
  · rw [none, none']
    rfl
  · rw [found, found']
    simp only [same.kind]
    rfl

theorem parenthesized_of_comment :
    parenthesized source (tree.withChildren children) (readAll source children) =
      parenthesized source tree (readAll source tree.children) := by
  have inner := shown_of_comment commented
  have related := forall₂_shownParts commented
  unfold parenthesized
  generalize shownParts (readAll source children) = shown' at inner related ⊢
  generalize shownParts (readAll source tree.children) = shown at inner related ⊢
  cases related with
  | nil => rfl
  | cons first rest =>
    cases rest with
    | nil => exact first.node
    | cons second rest =>
      exact congrArg (fun nodes => Node.other "parenthesized" nodes (locationOf source tree)) inner

theorem returnFrom_of_comment (isReturn : tree.kind = "return") :
    returnFrom source (tree.withChildren children) (readAll source children) =
      returnFrom source tree (readAll source tree.children) := by
  have values : (namedParts (readAll source children)).flatMap valuesOf =
      (namedParts (readAll source tree.children)).flatMap valuesOf := by
    rw [← flatMap_valuesOf, ← flatMap_valuesOf, List.flatMap_def, List.flatMap_def,
      map_eq_of_forall₂ (forall₂_shownParts commented) fun _ _ same => (isReturn ▸ same).valuesOf]
  rw [returnFrom_eq, returnFrom_eq, values]
  rfl

theorem superclassOf_of_comment (isClass : tree.kind = "class") :
    superclassOf (readAll source children) = superclassOf (readAll source tree.children) := by
  unfold superclassOf
  obtain ⟨none, none'⟩ | ⟨part, part', found, found', same⟩ := part?_alike commented "superclass"
  · rw [none, none']
  · have field : part.tree.field = some "superclass" := by
      rw [part?] at found
      simpa using List.find?_some found
    rw [found, found', Option.bind_some, Option.bind_some]
    exact same.superclass (congrArg some isClass) field

/-- The lists that are taken as they stand are read as before. -/
structure TakenAlike (source : Source) (holder : Option String) (tree : Concrete)
    (children : List Concrete) : Prop where
  values : holder = some "return" → tree.kind = "argument_list" →
    (namedParts (readAll source children)).map (·.node) =
      (namedParts (readAll source tree.children)).map (·.node)
  superclass : holder = some "class" → tree.field = some "superclass" →
    (namedParts (readAll source children)).head?.map (·.node) =
      (namedParts (readAll source tree.children)).head?.map (·.node)
  literal : literalKinds.contains tree.kind = true →
    literalContent? source (readAll source children) =
      literalContent? source (readAll source tree.children)

variable {holder : Option String} (taken : TakenAlike source holder tree children)

include taken

theorem build_of_comment :
    build source (tree.withChildren children) (readAll source children) =
      build source tree (readAll source tree.children) := by
  have body := bodyOf_of_comment commented
  have name := nameOf_of_comment commented
  have node := nodeOf_of_comment commented
  have required := requiredNode_of_comment commented
  have loc : locationOf source (tree.withChildren children) = locationOf source tree := rfl
  have text : textOf source (tree.withChildren children) = textOf source tree := rfl
  have sameKind : (tree.withChildren children).kind = tree.kind := rfl
  unfold build
  dsimp only
  rw [loc, text, sameKind]
  split
  -- the cases stand in the order of the kinds
  next => rw [shownStatements_of_comment commented]
  next isClass => rw [name, superclassOf_of_comment commented isClass, body]
  next => rw [name, body]
  next => rw [node, body]
  next => rw [name, body]
  next => rw [node, name, body]
  next => exact callFrom_of_comment commented
  next => rw [body]
  next => rw [body]
  next => exact chain_of_comment commented _ _
  next => exact chain_of_comment commented _ _
  next => exact modified_of_comment commented _
  next => exact modified_of_comment commented _
  next => exact ternaryOf_of_comment commented
  next => exact caseFrom_of_comment commented
  next => exact caseFrom_of_comment commented
  next isReturn => exact returnFrom_of_comment commented isReturn
  next => rw [required, name, required]
  next => rw [required, required]
  next => exact unaryFrom_of_comment commented
  next => exact parenthesized_of_comment commented
  next => rw [required, beside_of_comment commented]
  next => rfl
  next => rfl
  next => rfl
  next => rfl
  next => rfl
  next => rfl
  next => rfl
  next kind => rw [taken.literal (by rw [kind]; rfl)]
  next kind => rw [taken.literal (by rw [kind]; rfl)]
  next => rw [shown_of_comment commented]

theorem statement_of_comment :
    statement source (read source (tree.withChildren children)) =
      statement source (read source tree) := by
  rw [statement, statement, node_read, node_read, Reading.kind, Reading.kind, tree_read, tree_read,
    ← build_of_comment commented taken]
  rfl

theorem statements_of_comment :
    statements source (read source (tree.withChildren children)) =
      statements source (read source tree) := by
  have alone := statement_of_comment commented taken
  have all := shownStatements_of_comment commented
  unfold statements
  simp only [Reading.kind, parts_read, tree_read, alone]
  exact congrArg (fun nodes => if sequenceKinds.contains tree.kind then nodes
    else [statement source (read source tree)]) all

theorem chainRest_of_comment :
    chainRest source (read source (tree.withChildren children)) =
      chainRest source (read source tree) := by
  by_cases isElsif : tree.kind = "elsif"
  · rw [chainRest_elsif source tree isElsif, chainRest_elsif source (tree.withChildren children)
      isElsif, followers_of_comment commented, ← chainArm_of_comment commented]
    rfl
  · rw [chainRest_end source tree isElsif, chainRest_end source (tree.withChildren children)
      isElsif, statements_of_comment commented taken]

omit taken in
theorem blockOf_of_comment :
    blockOf source (read source (tree.withChildren children)) =
      blockOf source (read source tree) := by
  rw [blockOf, blockOf, parts_read, parts_read, tree_read, tree_read,
    ← bodyOf_of_comment commented]
  rfl

omit taken in
theorem caseArm_of_comment :
    caseArm source (read source (tree.withChildren children)) =
      caseArm source (read source tree) := by
  have patterns := map_eq_of_forall₂ (forall₂_partsNamed commented "pattern")
    fun _ _ same => same.node
  rw [caseArm, caseArm, parts_read, parts_read, tree_read, tree_read, ← patterns,
    ← statementsOf_of_comment commented]
  rfl

theorem seenAlike_of_comment :
    SeenAlike source holder (read source tree) (read source (tree.withChildren children)) where
  kind := by rw [Reading.kind, Reading.kind, tree_read, tree_read]; rfl
  named := by rw [tree_read, tree_read]; rfl
  field := by rw [tree_read, tree_read]; rfl
  text := by rw [tree_read, tree_read]; rfl
  loc := by rw [tree_read, tree_read]; rfl
  node := by
    rw [node_read, node_read]
    exact build_of_comment commented taken
  shown := by
    rw [parts_read, parts_read]
    exact shown_of_comment commented
  statements := statements_of_comment commented taken
  block := blockOf_of_comment commented
  caseArm := caseArm_of_comment commented
  chainRest := chainRest_of_comment commented taken
  values := by
    rw [Reading.kind, parts_read, parts_read, tree_read]
    exact taken.values
  superclass := by
    rw [parts_read, parts_read, tree_read]
    exact taken.superclass

end Constructs

/-! ### Lists that are taken as they stand -/

section Taken

variable {holder : Option String} {tree : Concrete} {before after : List Concrete}

theorem commentedParts_among {comment : Concrete} (kind : String)
    (isComment : comment.isComment = true) :
    CommentedParts source kind (readAll source (before ++ after))
      (readAll source (before ++ comment :: after)) := by
  simp only [readAll_eq_map, List.map_append, List.map_cons]
  exact .among (by rwa [tree_read])

theorem commentedParts_within {child more : Concrete}
    (same : SeenAlike source (some kind) (read source child) (read source more)) :
    CommentedParts source kind (readAll source (before ++ child :: after))
      (readAll source (before ++ more :: after)) := by
  simp only [readAll_eq_map, List.map_append, List.map_cons]
  exact .within same

/-- A comment that is not read with the rest is not in such a list. -/
theorem takenAlike_among (comment : Concrete) (children : tree.children = before ++ after)
    (unread : Unread holder tree before) :
    TakenAlike source holder tree (before ++ comment :: after) := by
  simp only [Unread, readsComment, Bool.or_eq_false_iff] at unread
  obtain ⟨⟨noValue, noSuperclass⟩, noText⟩ := unread
  constructor
  case values =>
    intro inReturn isList
    simp [inReturn, isList] at noValue
  case superclass =>
    intro inClass isField
    have front : ∃ part ∈ before, part.named = true := by
      simpa [inClass, isField] using noSuperclass
    obtain ⟨first, rest, listed⟩ := List.exists_cons_of_ne_nil
      (mt List.filter_eq_nil_iff.mp (by simpa using front))
    rw [children, namedParts, namedParts, filter_readAll, filter_readAll, List.filter_append,
      List.filter_append, listed]
    rfl
  case literal =>
    intro isLiteral
    have split : interpolates tree = true := by
      rw [isLiteral] at noText
      simpa using noText
    have still : interpolates (tree.withChildren (before ++ comment :: after)) = true := by
      simp only [interpolates, List.any_eq_true, Concrete.namedChildren, List.mem_filter] at split ⊢
      obtain ⟨part, ⟨member, named⟩, isInterpolation⟩ := split
      rw [children] at member
      refine ⟨part, ⟨?_, named⟩, isInterpolation⟩
      have wider : (before ++ after).Sublist (before ++ comment :: after) :=
        (List.append_sublist_append_left before).mpr (List.sublist_cons_self ..)
      exact wider.subset member
    rw [literalContent?_readAll, if_pos split]
    exact (literalContent?_readAll source _).trans (if_pos still)

/-- Parts one by one are named as before and have the same texts. -/
theorem takenAlike_within {child more : Concrete}
    (children : tree.children = before ++ child :: after)
    (same : SeenAlike source (some tree.kind) (read source child) (read source more)) :
    TakenAlike source holder tree (before ++ more :: after) := by
  have related : List.Forall₂ (SeenAlike source (some tree.kind))
      (namedParts (readAll source tree.children))
      (namedParts (readAll source (before ++ more :: after))) := by
    simp only [children, readAll_eq_map, List.map_append, List.map_cons]
    exact List.rel_filter (R := SeenAlike source (some tree.kind))
      (fun _ _ same => by simp only [same.named]) (forall₂_within same)
  have nodes := map_eq_of_forall₂ related fun _ _ same => same.node
  have kinds := map_eq_of_forall₂ related fun _ _ same => same.kind
  have texts := map_eq_of_forall₂ related fun _ _ same => same.text
  constructor
  case values => exact fun _ _ => nodes
  case superclass => exact fun _ _ => by rw [← List.head?_map, nodes, List.head?_map]
  case literal =>
    intro _
    have splits := congrArg (fun kinds => kinds.any fun kind => kind = "interpolation") kinds
    simp only [List.any_map, Function.comp_def] at splits
    simp only [literalContent?, splits, texts]

end Taken

/-- A comment leaves no trace where it is not read with the rest. -/
theorem seenAlike_of_commented {holder : Option String} {tree more : Concrete}
    (commented : Commented Unread holder tree more) :
    SeenAlike source holder (read source tree) (read source more) := by
  induction commented with
  | @among holder tree comment before after children isComment unread =>
    refine seenAlike_of_comment ?_ (takenAlike_among comment children unread)
    rw [children]
    exact commentedParts_among tree.kind isComment
  | @within holder tree child more before after children deeper ih =>
    refine seenAlike_of_comment ?_ (takenAlike_within children ih)
    rw [children]
    exact commentedParts_within ih

/-- Comments can be put into a tree one after the other, and what is read stays the same with its
places, unless one of them is a value that is returned, a superclass or text of a literal. -/
theorem node_read_of_comments (source : Source) {tree more : Concrete}
    (commented : Relation.ReflTransGen (Commented Unread none) tree more) :
    (read source more).node = (read source tree).node := by
  induction commented with
  | refl => rfl
  | tail _ step ih => rw [(seenAlike_of_commented step).node, ih]

/-- A construct with two numbers, in a source that gives them as `1, # one` and `2 # two` on two
lines. Comments may stand between the numbers and behind the construct. -/
def twoNumbers (kind : String) (field : Option String) (word : Concrete)
    (between behind : List Concrete) : Concrete :=
  .construct "program" 0 26 none
    (.construct kind 0 19 none
      [word, .construct "argument_list" 7 19 field
        ([.construct "integer" 7 8 none [], .token "," 8 9] ++ between ++
          [.construct "integer" 18 19 none []])] :: behind)

def twoNumbersSource (word : String) : Source :=
  .ofBytes (word ++ " 1, # one\n  2 # two\n").toUTF8

def commentOne : Concrete := .construct "comment" 10 15 none []

def commentTwo : Concrete := .construct "comment" 20 25 none []

def insertedNumbers : List Concrete → List Concrete → Concrete :=
  twoNumbers "call" (some "arguments") (.construct "identifier" 0 6 (some "method") [])

def returnedNumbers : List Concrete → List Concrete → Concrete :=
  twoNumbers "return" none (.token "return" 0 6)

/-- Comments between the arguments of a call and behind it leave no trace. -/
theorem node_read_of_comments_call :
    Relation.ReflTransGen (Commented Unread none) (insertedNumbers [] [])
        (insertedNumbers [commentOne] [commentTwo]) ∧
      (read (twoNumbersSource "insert") (insertedNumbers [commentOne] [commentTwo])).node =
        (read (twoNumbersSource "insert") (insertedNumbers [] [])).node := by
  have commented : Relation.ReflTransGen (Commented Unread none) (insertedNumbers [] [])
      (insertedNumbers [commentOne] [commentTwo]) := by
    refine .tail (.single (b := insertedNumbers [commentOne] []) ?_) ?_
    · exact .within [] [] rfl (.within [.construct "identifier" 0 6 (some "method") []] [] rfl
        (.among [.construct "integer" 7 8 none [], .token "," 8 9]
          [.construct "integer" 18 19 none []] rfl (by decide +kernel) (by decide +kernel)))
    · exact .among (insertedNumbers [commentOne] []).children [] (List.append_nil _).symm
        (by decide +kernel) (by decide +kernel)
  exact ⟨commented, node_read_of_comments _ commented⟩

/-- A comment between the values of a return is returned with them. -/
theorem comment_is_returned :
    Relation.ReflTransGen (Commented (fun _ _ _ => True) none) (returnedNumbers [] [])
        (returnedNumbers [commentOne] []) ∧
      (read (twoNumbersSource "return") (returnedNumbers [commentOne] [])).node ≠
        (read (twoNumbersSource "return") (returnedNumbers [] [])).node := by
  refine ⟨.single ?_, fun same => ?_⟩
  · exact .within [] [] rfl (.within [.token "return" 0 6] [] rfl
      (.among [.construct "integer" 7 8 none [], .token "," 8 9]
        [.construct "integer" 18 19 none []] rfl (by decide +kernel) trivial))
  · have sizes := congrArg (fun node => node.walk.length) same
    revert sizes
    decide +kernel

end SpecLint.Code
