import SpecLint.Path.Basic

/-!
# The order of paths

Paths are compared part by part, as dictionaries do it with letters. This is a total order, so
sorting a list of paths puts them in ascending order.

## Main result

`Path.pairwise_mergeSort_le`: sorted paths ascend.
-/
namespace SpecLint.Path

theorem partsLe_cons (left right : String) (lefts rights : List String) :
    partsLe (left :: lefts) (right :: rights) = true ↔
      left < right ∨ left = right ∧ partsLe lefts rights = true := by
  by_cases same : left = right
  · subst same
    rw [partsLe, if_pos rfl]
    exact ⟨fun le => .inr ⟨rfl, le⟩,
      fun le => le.elim (absurd · (String.lt_irrefl left)) fun equal => equal.2⟩
  · simp [partsLe, same]

theorem partsLe_trans {first second third : List String} (left : partsLe first second = true)
    (right : partsLe second third = true) : partsLe first third = true := by
  induction first generalizing second third with
  | nil => rfl
  | cons a as ih =>
    cases second with
    | nil => cases left
    | cons b bs =>
      cases third with
      | nil => cases right
      | cons c cs =>
        rw [partsLe_cons] at left right ⊢
        -- the first parts decide unless they are the same all the way
        rcases left with below | ⟨rfl, left⟩
        · rcases right with further | ⟨rfl, _⟩
          · exact .inl (String.lt_trans below further)
          · exact .inl below
        · rcases right with below | ⟨rfl, right⟩
          · exact .inl below
          · exact .inr ⟨rfl, ih left right⟩

theorem partsLe_total (first second : List String) :
    partsLe first second = true ∨ partsLe second first = true := by
  induction first generalizing second with
  | nil => exact .inl rfl
  | cons a as ih =>
    cases second with
    | nil => exact .inr rfl
    | cons b bs =>
      rw [partsLe_cons, partsLe_cons]
      by_cases same : a = b
      · subst same
        rcases ih bs with left | right
        · exact .inl (.inr ⟨rfl, left⟩)
        · exact .inr (.inr ⟨rfl, right⟩)
      · by_cases below : a < b
        · exact .inl (.inl below)
        · have above : b ≤ a := String.not_lt.mp below
          have strict : b < a := by
            refine String.not_le.mp fun other => same ?_
            exact String.le_antisymm other above
          exact .inr (.inl strict)

theorem le_trans {first second third : Path} (left : first.le second = true)
    (right : second.le third = true) : first.le third = true :=
  partsLe_trans left right

theorem le_total (first second : Path) : (first.le second || second.le first) = true := by
  rw [Bool.or_eq_true]
  exact partsLe_total first.parts second.parts

/-- Sorted paths ascend. -/
theorem pairwise_mergeSort_le (paths : List Path) :
    (paths.mergeSort Path.le).Pairwise fun left right => left.le right = true := by
  apply List.pairwise_mergeSort
  · intro first second third left right
    exact le_trans left right
  · intro first second
    exact le_total first second

end SpecLint.Path
