import SpecLint.CodeUnit.Basic

/-!
# Qualified names

A qualified name is a sequence of constants joined by double colons. The constants may come in
groups, each joined already, and it does not matter for the name how they are grouped.
-/
namespace SpecLint.CodeUnit

open SpecLint.Text

theorem joinWith_cons {separator piece : List Char} {pieces : List (List Char)}
    (more : pieces ≠ []) :
    joinWith separator (piece :: pieces) = piece ++ separator ++ joinWith separator pieces := by
  cases pieces with
  | nil => exact absurd rfl more
  | cons next rest => rfl

theorem joinWith_append {separator : List Char} {first second : List (List Char)}
    (left : first ≠ []) (right : second ≠ []) :
    joinWith separator (first ++ second) =
      joinWith separator first ++ separator ++ joinWith separator second := by
  induction first with
  | nil => exact absurd rfl left
  | cons piece first ih =>
    rw [List.cons_append, joinWith_cons (by simp [right])]
    cases first with
    | nil => rfl
    | cons next rest =>
      rw [ih (List.cons_ne_nil _ _), joinWith_cons (List.cons_ne_nil next rest)]
      simp only [List.append_assoc]

/-- All but the last piece are followed by the separator. -/
theorem joinWith_concat (separator last : List Char) (pieces : List (List Char)) :
    joinWith separator (pieces ++ [last]) =
      pieces.flatMap (fun piece => piece ++ separator) ++ last := by
  induction pieces with
  | nil => rfl
  | cons piece pieces ih =>
    rw [List.cons_append, joinWith_cons (by simp), ih]
    simp

/-- How constants are grouped does not matter for the name they form. -/
theorem joined_map_joined {groups : List (List (List Char))} (full : ∀ group ∈ groups, group ≠ []) :
    joined (groups.map joined) = joined groups.flatten := by
  induction groups with
  | nil => rfl
  | cons group groups ih =>
    have inRest : ∀ group ∈ groups, group ≠ [] := fun group member => full group (by simp [member])
    cases groups with
    | nil => simp [joined, joinWith]
    | cons next rest =>
      have here : group ≠ [] := full group (by simp)
      have more : (next :: rest).flatten ≠ [] := by simp [inRest next (by simp)]
      rw [List.map_cons, List.flatten_cons]
      -- the first group is followed by one separator on both sides
      unfold joined at ih ⊢
      rw [joinWith_append here more, ← ih inRest, joinWith_cons (by simp)]

/-- The constants of a name in groups, each group joined to one part. -/
def Regroups (constants parts : List (List Char)) : Prop :=
  ∃ groups : List (List (List Char)), (∀ group ∈ groups, group ≠ []) ∧
    groups.flatten = constants ∧ groups.map joined = parts

theorem joined_of_regroups {constants parts : List (List Char)}
    (regroups : Regroups constants parts) : joined parts = joined constants := by
  obtain ⟨groups, full, rfl, rfl⟩ := regroups
  exact joined_map_joined full

end SpecLint.CodeUnit
