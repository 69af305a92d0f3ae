import SpecLint.Glob.Segment

/-!
# Brace alternatives

`{a,b}` in a pattern stands for either alternative; groups nest. A pattern expands to the list of
patterns without that choice, in order from left to right. An opening brace that is never closed
stands for itself, and so does every group after it. Each step removes one opening brace, which is
why expansion ends.
-/
namespace SpecLint.Glob

/-- Put a character in front of the first alternative. -/
def pushChar (c : Char) : List (List Char) × List Char → List (List Char) × List Char
  | ([], tail) => ([[c]], tail)
  | (first :: others, tail) => ((c :: first) :: others, tail)

/-- The alternatives of an opened group and the text after it, reading at nesting `depth`. -/
def readGroup? : Nat → List Char → Option (List (List Char) × List Char)
  | _, [] => none
  | depth, c :: rest =>
    if c = '\x7b' then (readGroup? (depth + 1) rest).map (pushChar c)
    else if c = '\x7d' then
      match depth with
      | 0 => some ([[]], rest)
      | depth + 1 => (readGroup? depth rest).map (pushChar c)
    else if c = ',' ∧ depth = 0 then
      (readGroup? 0 rest).map fun (alternatives, tail) => ([] :: alternatives, tail)
    else (readGroup? depth rest).map (pushChar c)

/-- The number of opening braces. -/
def openBraces (text : List Char) : Nat := text.count '\x7b'

theorem openBraces_append (left right : List Char) :
    openBraces (left ++ right) = openBraces left + openBraces right := by
  simp [openBraces]

theorem pushChar_ne_nil (c : Char) (group : List (List Char) × List Char) :
    (pushChar c group).1 ≠ [] := by
  obtain ⟨listed, tail⟩ := group
  cases listed <;> simp [pushChar]

/-- A group has at least one alternative. -/
theorem readGroup?_ne_nil {depth : Nat} {text : List Char} {group : List (List Char) × List Char}
    (read : readGroup? depth text = some group) : group.1 ≠ [] := by
  fun_induction readGroup? depth text generalizing group with
  | case1 => simp at read
  | case2 => obtain ⟨_, _, rfl⟩ := Option.map_eq_some_iff.mp read; exact pushChar_ne_nil _ _
  | case3 => simp only [Option.some.injEq] at read; subst read; simp
  | case4 => obtain ⟨_, _, rfl⟩ := Option.map_eq_some_iff.mp read; exact pushChar_ne_nil _ _
  | case5 => obtain ⟨_, _, rfl⟩ := Option.map_eq_some_iff.mp read; simp
  | case6 => obtain ⟨_, _, rfl⟩ := Option.map_eq_some_iff.mp read; exact pushChar_ne_nil _ _

/-- Every alternative of the group, together with the text after it, holds at most `limit` opening
braces. -/
def GroupBounded (limit : Nat) (group : List (List Char) × List Char) : Prop :=
  ∀ alternative ∈ group.1, openBraces alternative + openBraces group.2 ≤ limit

theorem GroupBounded.push {text : List Char} {group : List (List Char) × List Char}
    (bounded : GroupBounded (openBraces text) group) (nonempty : group.1 ≠ []) (c : Char) :
    GroupBounded (openBraces (c :: text)) (pushChar c group) := by
  obtain ⟨listed, tail⟩ := group
  cases listed with
  | nil => exact absurd rfl nonempty
  | cons first others =>
    intro alternative member
    rcases List.mem_cons.mp member with rfl | later
    · have := bounded first (by simp)
      simp only [openBraces, List.count_cons, pushChar] at this ⊢
      omega
    · have := bounded alternative (by simp [later])
      simp only [openBraces, List.count_cons, pushChar] at this ⊢
      omega

/-- Reading a group creates no opening brace. -/
theorem readGroup?_bounded {depth : Nat} {text : List Char} {group : List (List Char) × List Char}
    (read : readGroup? depth text = some group) : GroupBounded (openBraces text) group := by
  fun_induction readGroup? depth text generalizing group with
  | case1 => simp at read
  | case2 depth rest ih =>
    obtain ⟨inner, found, rfl⟩ := Option.map_eq_some_iff.mp read
    exact (ih found).push (readGroup?_ne_nil found) _
  | case3 =>
    simp only [Option.some.injEq] at read
    subst read
    intro alternative member
    simp only [List.mem_singleton] at member
    subst member
    simp [openBraces]
  | case4 rest _ depth ih =>
    obtain ⟨inner, found, rfl⟩ := Option.map_eq_some_iff.mp read
    exact (ih found).push (readGroup?_ne_nil found) _
  | case5 =>
    rename_i ih
    obtain ⟨inner, found, rfl⟩ := Option.map_eq_some_iff.mp read
    obtain ⟨listed, tail⟩ := inner
    intro alternative member
    rcases List.mem_cons.mp member with rfl | later
    · cases listed with
      | nil => exact absurd rfl (readGroup?_ne_nil found)
      | cons first others =>
        have := ih found first (by simp)
        simp only [openBraces, List.count_cons, List.count_nil] at this ⊢
        omega
    · have := ih found alternative later
      simp only [openBraces, List.count_cons] at this ⊢
      omega
  | case6 depth c rest _ _ _ ih =>
    obtain ⟨inner, found, rfl⟩ := Option.map_eq_some_iff.mp read
    exact (ih found).push (readGroup?_ne_nil found) _

/-- The first group of a pattern: the text before it, its alternatives, the text after it. -/
def firstGroup? (pattern : List Char) : Option (List Char × List (List Char) × List Char) :=
  match pattern with
  | [] => none
  | c :: rest =>
    if c = '\x7b' then (readGroup? 0 rest).map fun (alternatives, tail) => ([], alternatives, tail)
    else (firstGroup? rest).map fun (head, alternatives, tail) => (c :: head, alternatives, tail)

/-- Replacing the first group by one of its alternatives removes an opening brace. -/
theorem firstGroup?_openBraces {pattern head tail : List Char} {alternatives : List (List Char)}
    (found : firstGroup? pattern = some (head, alternatives, tail)) :
    ∀ alternative ∈ alternatives,
      openBraces (head ++ alternative ++ tail) < openBraces pattern := by
  induction pattern generalizing head with
  | nil => simp [firstGroup?] at found
  | cons c rest ih =>
    simp only [firstGroup?] at found
    split at found
    next opening =>
      obtain ⟨⟨listed, after⟩, read, same⟩ := Option.map_eq_some_iff.mp found
      simp only [Prod.mk.injEq] at same
      obtain ⟨rfl, rfl, rfl⟩ := same
      intro alternative member
      have bound := readGroup?_bounded read alternative member
      simp only [List.nil_append, openBraces_append]
      simp only [openBraces, List.count_cons, opening] at bound ⊢
      simp
      omega
    next other =>
      obtain ⟨⟨before, listed, after⟩, earlier, same⟩ := Option.map_eq_some_iff.mp found
      simp only [Prod.mk.injEq] at same
      obtain ⟨rfl, rfl, rfl⟩ := same
      intro alternative member
      have bound := ih earlier alternative member
      simp only [openBraces, List.cons_append, List.count_cons] at bound ⊢
      omega

/-- The patterns that a pattern with groups stands for. -/
def expandBraces (pattern : List Char) : List (List Char) :=
  match _found : firstGroup? pattern with
  | none => [pattern]
  | some (head, alternatives, tail) =>
    alternatives.attach.flatMap fun ⟨alternative, _member⟩ =>
      expandBraces (head ++ alternative ++ tail)
termination_by openBraces pattern
decreasing_by exact firstGroup?_openBraces (by assumption) alternative (by assumption)

/-- A pattern without a complete first group stands for itself. -/
theorem expandBraces_plain {pattern : List Char} (plain : firstGroup? pattern = none) :
    expandBraces pattern = [pattern] := by
  rw [expandBraces]
  split
  · rfl
  next found => simp [plain] at found

theorem expandBraces_group {pattern head tail : List Char} {alternatives : List (List Char)}
    (found : firstGroup? pattern = some (head, alternatives, tail)) :
    expandBraces pattern =
      alternatives.flatMap fun alternative => expandBraces (head ++ alternative ++ tail) := by
  rw [expandBraces]
  split
  next absent => simp [found] at absent
  next other =>
    rw [found] at other
    simp only [Option.some.injEq, Prod.mk.injEq] at other
    obtain ⟨rfl, rfl, rfl⟩ := other
    simp [List.flatMap_subtype]

end SpecLint.Glob
