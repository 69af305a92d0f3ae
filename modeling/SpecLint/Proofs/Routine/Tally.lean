import SpecLint.Proofs.Routine.Amounts

/-!
# Branches of readings

The branches of a code tree, counted on the concrete tree it is read from. Conditionals, cases and
conditional assignments have branches of their own; for each of them this is the weight of the
construct that it is read from.

## Main result

`branches_eq_tally`: the branches of a routine are those that the parts of its body contribute.
-/
namespace SpecLint.Routine

open SpecLint.Code

/-- Branches add up over the nodes that are entered. -/
theorem additive_total : Additive (total false) contribution where
  entered := by
    intro node entered
    rw [total_open false entered]
    simp [counted]
  silent := by
    intro node _ silent
    cases node <;> first | rfl | cases silent

variable (source : Source) (tree : Concrete)

/-! ### Weights of readings -/

/-- How many further arms a chain has, and its `else`. -/
theorem size_chainRest (alternative : Concrete) :
    let rest := chainRest source (read source alternative)
    (rest.1.length + if rest.2.isSome then 1 else 0) = alternativeArms alternative := by
  -- along the alternatives, each of which is a child of the one before
  induction alternative using alternativeArms.induct with
  | case1 alternative isElsif further next ih =>
    dsimp only at ih ⊢
    rw [chainRest_elsif source alternative isElsif, alternativeArms_elsif alternative isElsif,
      followers, chainArms, next, Option.elim_some, Option.elim_some, ← ih]
    dsimp only [List.length_cons]
    omega
  | case2 alternative isElsif next =>
    rw [chainRest_elsif source alternative isElsif, alternativeArms_elsif alternative isElsif,
      followers, chainArms, next]
    rfl
  | case3 alternative isElse =>
    rw [chainRest_end source alternative isElse, alternativeArms, if_neg isElse]
    rfl

theorem size_followers :
    ((followers source tree).1.length + if (followers source tree).2.isSome then 1 else 0) =
      (tree.child? "alternative").elim 0 alternativeArms := by
  unfold followers
  cases tree.child? "alternative" with
  | none => rfl
  | some further => exact size_chainRest source further

theorem contribution_chain {form : Branching} (negated : Bool)
    (isChain : form = .ifChain ∨ form = .unlessChain) :
    contribution (chain source form negated tree (readAll source tree.children)) =
      chainArms tree := by
  have size := size_followers source tree
  have one : armCount (chainArm source tree (readAll source tree.children) ::
      (followers source tree).1) (followers source tree).2 = chainArms tree := by
    rw [armCount, chainArms, List.length_cons]
    omega
  rw [chain_readAll]
  rcases isChain with rfl | rfl <;> exact one

theorem isSome_getLast?_filter {α β : Type} (test : α → Bool) (items : List α) (f : α → β) :
    ((items.filter test).getLast?.map f).isSome = items.any test := by
  rw [Option.isSome_map, Bool.eq_iff_iff, List.getLast?_isSome, List.any_eq_true]
  simp [List.filter_eq_nil_iff]

theorem contribution_caseFrom :
    contribution (caseFrom source tree (readAll source tree.children)) = caseArms tree := by
  rw [caseFrom_readAll, contribution, armCount, caseArms, List.length_map, List.length_map,
    List.getLast?_map, Option.map_map, isSome_getLast?_filter]

/-- A construct has the branches by itself that its kind gives it. -/
theorem ownHeld_contribution (entered : isDefinition tree = false) :
    ownHeld contribution source tree = weight source tree := by
  have closed {kind : String} (isKind : tree.kind = kind)
      (isNested : definitionKinds.contains kind = true) : False := by
    rw [isDefinition, isKind, isNested] at entered
    cases entered
  rw [ownHeld, node_read]
  by_cases parentheses : tree.kind = "parenthesized_statements"
  · rw [if_pos parentheses, weight, parentheses]
    rfl
  rw [if_neg parentheses]
  unfold build weight
  dsimp only
  split
  -- the cases stand in the order of the kinds
  next kind => rw [kind]; rfl
  next kind => exact (closed kind rfl).elim
  next kind => exact (closed kind rfl).elim
  next kind => exact (closed kind rfl).elim
  next kind => exact (closed kind rfl).elim
  next kind => exact (closed kind rfl).elim
  next kind => rw [kind]; rfl
  next kind => rw [kind]; rfl
  next kind => rw [kind]; rfl
  next kind => rw [kind]; exact contribution_chain source tree false (.inl rfl)
  next kind => rw [kind]; exact contribution_chain source tree true (.inr rfl)
  next kind => rw [kind]; rfl
  next kind => rw [kind]; rfl
  next kind => rw [kind]; rfl
  next kind => rw [kind]; exact contribution_caseFrom source tree
  next kind => rw [kind]; exact contribution_caseFrom source tree
  next kind =>
    rw [kind]
    obtain ⟨unnested, silent⟩ := passes_returnFrom source tree (readAll source tree.children)
    exact additive_total.silent unnested silent
  next kind => rw [kind, nameOf_readAll]; rfl
  next kind => rw [kind]; rfl
  next kind =>
    rw [kind]
    obtain ⟨unnested, silent⟩ := passes_unaryFrom source tree (readAll source tree.children)
    exact additive_total.silent unnested silent
  next kind => exact absurd kind parentheses
  next kind => rw [kind]; rfl
  next kind => rw [kind]; rfl
  next kind => rw [kind]; rfl
  next kind => rw [kind]; rfl
  next kind => rw [kind]; rfl
  next kind => rw [kind]; rfl
  next kind => rw [kind]; rfl
  next kind => rw [kind]; rfl
  next kind =>
    rw [kind]
    cases literalContent? source (readAll source tree.children) <;> rfl
  next kind => rw [kind]; rfl
  next =>
    -- no other kind has a rule of its own
    simp only [*]
    rfl

/-! ### The whole contribution -/

/-- The branches of a code tree are what the concrete tree contributes. -/
theorem held_total (tree : Concrete) : held (total false) source tree = tally source tree := by
  rw [tally_eq]
  split
  next isNested =>
    simp only [isDefinition, definitionKinds, List.contains_iff_mem, List.mem_cons,
      List.not_mem_nil, or_false] at isNested
    rw [held, node_read, build]
    rcases isNested with kind | kind | kind | kind | kind <;> rw [kind] <;>
      exact total_nested _ rfl
  next isOpen =>
    have entered := Bool.eq_false_iff.mpr isOpen
    rw [additive_total.held_step source tree entered, ownHeld_contribution source tree entered]
    -- every entry is smaller than what is read from it
    refine congrArg (weight source tree + ·) (sumOver_congr ?_)
    intro entry isEntry
    have smaller := (below_entries isEntry).sizeOf_lt
    exact held_total entry
termination_by sizeOf tree

/-! ### Routines -/

/-- The branches of a routine are those that the parts of its body contribute. -/
theorem branches_eq_tally (isRoutine : tree.kind = "method" ∨ tree.kind = "singleton_method") :
    branches false (read source tree).node.body =
      max 1 (sumOver (tally source) (statementParts tree)) := by
  have inBody (headers : List String) :
      ((bodyOf source (readAll source tree.children) headers).map (total false)).sum =
        sumOver (tally source) (tree.bodyParts headers) := by
    rw [additive_total.sum_bodyOf]
    exact sumOver_congr fun part _ => held_total source part
  rw [branches_eq_total, node_read, build, statementParts]
  rcases isRoutine with kind | kind <;> rw [kind] <;> exact congrArg (max 1) (inBody _)

end SpecLint.Routine
