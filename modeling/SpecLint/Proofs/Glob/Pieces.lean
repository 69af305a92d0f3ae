import Mathlib.Data.List.Forall2
import SpecLint.Proofs.Glob.Alternatives

/-!
# Pieces of text in a brace pattern

Braces and commas decide how a pattern expands, all other text is handed on as it is. So a piece of
other text comes out unchanged wherever it comes out, be it from outside all groups or from one
alternative, and another piece in its place would come out at the same places.

## Main results

* `expandBraces_prepend`: text before a pattern is text before everything it stands for.
* `expandBraces_exchanged`: exchanging a piece of a pattern exchanges it in what it stands for.
-/
namespace SpecLint.Glob

/-- Text that has no part in groups. -/
def IsPiece (text : List Char) : Prop := ∀ c ∈ text, IsLiteral true c

theorem IsPiece.plain {text : List Char} (piece : IsPiece text) : '\x7b' ∉ text :=
  fun opening => (piece _ opening).1 rfl

/-! ### Text in front -/

theorem firstGroup?_prepend {front : List Char} (plain : '\x7b' ∉ front) (rest : List Char) :
    firstGroup? (front ++ rest) =
      (firstGroup? rest).map fun (head, alternatives, tail) =>
        (front ++ head, alternatives, tail) := by
  induction front with
  | nil => simp
  | cons c front ih =>
    rw [List.mem_cons, not_or] at plain
    rw [List.cons_append, firstGroup?, if_neg (Ne.symm plain.1), ih plain.2, Option.map_map]
    rfl

/-- What stands in front of all groups stands in front of every word. -/
theorem expandBraces_prepend {front : List Char} (plain : '\x7b' ∉ front) (pattern : List Char) :
    expandBraces (front ++ pattern) = (expandBraces pattern).map (front ++ ·) := by
  induction pattern using expandBraces.induct with
  | case1 pattern ends =>
    have settled : firstGroup? (front ++ pattern) = none := by
      rw [firstGroup?_prepend plain, ends]
      rfl
    rw [expandBraces_plain ends, expandBraces_plain settled]
    rfl
  | case2 pattern head alternatives tail found ih =>
    have later : firstGroup? (front ++ pattern) = some (front ++ head, alternatives, tail) := by
      rw [firstGroup?_prepend plain, found]
      rfl
    rw [expandBraces_group found, expandBraces_group later, List.map_flatMap]
    refine List.flatMap_congr fun alternative member => ?_
    rw [← ih alternative member, List.append_assoc, List.append_assoc, List.append_assoc]

/-! ### One piece for another -/

/-- Two texts are the same, or one has a piece where the other has another one. -/
def Exchanged (piece other left right : List Char) : Prop :=
  left = right ∨ ∃ front back, left = front ++ (piece ++ back) ∧ right = front ++ (other ++ back)

variable {piece other : List Char}

theorem Exchanged.prepend {left right : List Char} (exchanged : Exchanged piece other left right)
    (head : List Char) : Exchanged piece other (head ++ left) (head ++ right) := by
  rcases exchanged with rfl | ⟨front, back, rfl, rfl⟩
  · exact .inl rfl
  · exact .inr ⟨head ++ front, back, by simp, by simp⟩

/-- The alternatives of two groups correspond, in whatever text they are put back. -/
structure ExchangedGroup (piece other : List Char) (group later : List (List Char) × List Char) :
    Prop where
  tails : Exchanged piece other group.2 later.2
  alternatives : ∀ head, List.Forall₂
    (fun left right =>
      Exchanged piece other (head ++ (left ++ group.2)) (head ++ (right ++ later.2)))
    group.1 later.1

theorem ExchangedGroup.pushChar {group later : List (List Char) × List Char}
    (exchanged : ExchangedGroup piece other group later) (c : Char) :
    ExchangedGroup piece other (Glob.pushChar c group) (Glob.pushChar c later) := by
  obtain ⟨listed, tail⟩ := group
  obtain ⟨listedLater, tailLater⟩ := later
  obtain ⟨tails, alternatives⟩ := exchanged
  cases listed with
  | nil =>
    obtain rfl := List.forall₂_nil_left_iff.mp (alternatives [])
    refine ⟨tails, fun head => .cons ?_ .nil⟩
    simpa [Glob.pushChar] using tails.prepend (head ++ [c])
  | cons first others =>
    obtain ⟨firstLater, othersLater, -, -, rfl⟩ := List.forall₂_cons_left_iff.mp (alternatives [])
    refine ⟨tails, fun head => ?_⟩
    -- the character goes to the text before the first alternative
    have pushed := (List.forall₂_cons.mp (alternatives (head ++ [c]))).1
    exact .cons (by simpa [Glob.pushChar] using pushed) (List.forall₂_cons.mp (alternatives head)).2

theorem ExchangedGroup.divided {group later : List (List Char) × List Char}
    (exchanged : ExchangedGroup piece other group later) :
    ExchangedGroup piece other ([] :: group.1, group.2) ([] :: later.1, later.2) where
  tails := exchanged.tails
  alternatives head := .cons (exchanged.tails.prepend head) (exchanged.alternatives head)

theorem exchangedGroup_pushText {group : List (List Char) × List Char} (nonempty : group.1 ≠ []) :
    ExchangedGroup piece other (pushText piece group) (pushText other group) := by
  obtain ⟨listed, tail⟩ := group
  obtain ⟨first, others, rfl⟩ := List.exists_cons_of_ne_nil nonempty
  rw [pushText_cons, pushText_cons]
  refine ⟨.inl rfl, fun head => .cons ?_ ?_⟩
  · exact .inr ⟨head, first ++ tail, by simp, by simp⟩
  · exact List.forall₂_same.mpr fun alternative _ => .inl rfl

/-- Related lists give related lists, item by item. -/
theorem forall₂_flatMap {α β : Type} {R : α → α → Prop} {S : β → β → Prop} {f g : α → List β}
    {left right : List α} (related : List.Forall₂ R left right)
    (kept : ∀ a ∈ left, ∀ b, R a b → List.Forall₂ S (f a) (g b)) :
    List.Forall₂ S (left.flatMap f) (right.flatMap g) := by
  induction related with
  | nil => exact .nil
  | @cons a b left right here _ ih =>
    rw [List.flatMap_cons, List.flatMap_cons]
    refine List.rel_append (kept a List.mem_cons_self b here) (ih fun c member => ?_)
    exact kept c (List.mem_cons_of_mem a member)

theorem rel_map {α β : Type} {R : α → α → Prop} {S : β → β → Prop} {f g : α → β}
    {left right : Option α} (related : Option.Rel R left right)
    (kept : ∀ a b, R a b → S (f a) (g b)) : Option.Rel S (left.map f) (right.map g) := by
  cases related with
  | some same => exact .some (kept _ _ same)
  | none => exact .none

variable (isPiece : IsPiece piece) (isOther : IsPiece other)
include isPiece isOther

theorem readGroup?_exchanged (depth : Nat) (front back : List Char) :
    Option.Rel (ExchangedGroup piece other) (readGroup? depth (front ++ (piece ++ back)))
      (readGroup? depth (front ++ (other ++ back))) := by
  induction front generalizing depth with
  | nil =>
    rw [List.nil_append, List.nil_append, readGroup?_text isPiece, readGroup?_text isOther]
    cases read : readGroup? depth back with
    | none => exact .none
    | some group => exact .some (exchangedGroup_pushText (readGroup?_ne_nil read))
  | cons c front ih =>
    rw [List.cons_append, List.cons_append]
    by_cases opening : c = '\x7b'
    · subst opening
      rw [readGroup?_opening, readGroup?_opening]
      exact rel_map (ih (depth + 1)) fun _ _ exchanged => exchanged.pushChar _
    by_cases closing : c = '\x7d'
    · subst closing
      cases depth with
      | zero =>
        -- the group is over before the piece
        have tails : Exchanged piece other (front ++ (piece ++ back)) (front ++ (other ++ back)) :=
          .inr ⟨front, back, rfl, rfl⟩
        rw [readGroup?_end, readGroup?_end]
        exact .some ⟨tails, fun head => .cons (tails.prepend head) .nil⟩
      | succ depth =>
        rw [readGroup?_closing, readGroup?_closing]
        exact rel_map (ih depth) fun _ _ exchanged => exchanged.pushChar _
    by_cases comma : c = ','
    · subst comma
      rw [readGroup?_comma, readGroup?_comma]
      refine rel_map (ih depth) fun _ _ exchanged => ?_
      split
      · exact exchanged.divided
      · exact exchanged.pushChar _
    · rw [readGroup?_literal ⟨opening, closing, fun _ => comma⟩,
        readGroup?_literal ⟨opening, closing, fun _ => comma⟩]
      exact rel_map (ih depth) fun _ _ exchanged => exchanged.pushChar _

omit isPiece isOther in
/-- What the first group of a pattern is replaced by corresponds to what that of another is. -/
def ExchangedChoices (piece other : List Char)
    (found later : List Char × List (List Char) × List Char) : Prop :=
  List.Forall₂
    (fun left right => Exchanged piece other (found.1 ++ left ++ found.2.2)
      (later.1 ++ right ++ later.2.2))
    found.2.1 later.2.1

theorem firstGroup?_exchanged (front back : List Char) :
    Option.Rel (ExchangedChoices piece other) (firstGroup? (front ++ (piece ++ back)))
      (firstGroup? (front ++ (other ++ back))) := by
  induction front with
  | nil =>
    rw [List.nil_append, List.nil_append, firstGroup?_prepend isPiece.plain,
      firstGroup?_prepend isOther.plain]
    cases firstGroup? back with
    | none => exact .none
    | some found =>
      refine .some (List.forall₂_same.mpr fun alternative _ => .inr ⟨[], ?_⟩)
      exact ⟨found.1 ++ alternative ++ found.2.2, by simp, by simp⟩
  | cons c front ih =>
    rw [List.cons_append, List.cons_append, firstGroup?, firstGroup?]
    split
    · refine rel_map (readGroup?_exchanged isPiece isOther 0 front back) fun _ _ exchanged => ?_
      simpa [ExchangedChoices] using exchanged.alternatives []
    · refine rel_map ih fun _ _ exchanged => ?_
      exact List.Forall₂.imp (fun _ _ same => same.prepend [c]) exchanged

/-- Exchanging a piece of a pattern exchanges it in the patterns it stands for. -/
theorem expandBraces_exchanged {left right : List Char}
    (exchanged : Exchanged piece other left right) :
    List.Forall₂ (Exchanged piece other) (expandBraces left) (expandBraces right) := by
  induction left using expandBraces.induct generalizing right with
  | case1 left plain =>
    rcases exchanged with rfl | ⟨front, back, rfl, rfl⟩
    · exact List.forall₂_same.mpr fun word _ => .inl rfl
    · have groups := firstGroup?_exchanged isPiece isOther front back
      rw [plain] at groups
      cases later : firstGroup? (front ++ (other ++ back)) with
      | some choice => rw [later] at groups; cases groups
      | none =>
        rw [expandBraces_plain plain, expandBraces_plain later]
        exact .cons (.inr ⟨front, back, rfl, rfl⟩) .nil
  | case2 left head alternatives tail found ih =>
    rcases exchanged with rfl | ⟨front, back, rfl, rfl⟩
    · exact List.forall₂_same.mpr fun word _ => .inl rfl
    · have groups := firstGroup?_exchanged isPiece isOther front back
      rw [found] at groups
      cases later : firstGroup? (front ++ (other ++ back)) with
      | none => rw [later] at groups; cases groups
      | some choice =>
        obtain ⟨headLater, listed, tailLater⟩ := choice
        rw [later] at groups
        cases groups with
        | some choices =>
          rw [expandBraces_group found, expandBraces_group later]
          exact forall₂_flatMap choices fun alternative member _ same => ih alternative member same

end SpecLint.Glob
