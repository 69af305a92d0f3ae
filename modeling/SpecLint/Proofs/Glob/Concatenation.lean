import SpecLint.Proofs.Glob.Starred
import Mathlib.Data.List.TakeWhile

/-!
# Wildcards followed by others

What follows a wildcard may close a bracket that the wildcard leaves open. If it cannot, since it
has no closing bracket, both are read on their own, and a name is accepted exactly if it can be cut
into a part for each.

## Main result

`matchSegment_append`: the names that a wildcard accepts together with a text behind it that has no
closing brackets.
-/
namespace SpecLint.Glob

/-! ### Reading -/

theorem takeWhile_unclosed {text : List Char} (unclosed : ']' ∉ text) :
    text.takeWhile (· ≠ ']') = text := by
  refine List.takeWhile_eq_self_iff.mpr fun c member => ?_
  rw [decide_eq_true_eq]
  rintro rfl
  exact unclosed member

/-- A bracket without a closing one is not closed. -/
theorem closeBracket?_eq_none {text : List Char} (unclosed : ']' ∉ text) :
    closeBracket? text = none := by
  have whole : (text.drop (bracketOpening text)).takeWhile (· ≠ ']') =
      text.drop (bracketOpening text) :=
    takeWhile_unclosed fun member => unclosed (List.mem_of_mem_drop member)
  have past : text.length ≤ bracketOpening text + (text.drop (bracketOpening text)).length := by
    rw [List.length_drop]
    omega
  simp only [closeBracket?, whole, List.drop_eq_nil_of_le past]

/-- How a bracket opens is decided within the text that closes it. -/
theorem bracketOpening_append {text : List Char} (closed : ']' ∈ text) (more : List Char) :
    bracketOpening (text ++ more) = bracketOpening text ∧ bracketOpening text ≤ text.length := by
  match text, closed with
  | [_], closed =>
    obtain rfl := List.mem_singleton.mp closed
    exact ⟨rfl, Nat.le_refl _⟩
  | first :: second :: rest, _ =>
    by_cases mark : first = '!'
    · subst mark
      by_cases closes : second = ']'
      · subst closes
        exact ⟨rfl, by simp [bracketOpening]⟩
      · simp [bracketOpening, closes]
    · by_cases closes : first = ']'
      · subst closes
        simp [bracketOpening]
      · simp [bracketOpening, mark, closes]

/-- A text without closing brackets closes no bracket before it. -/
theorem closeBracket?_append {text more : List Char} (unclosed : ']' ∉ more) :
    closeBracket? (text ++ more) =
      (closeBracket? text).map fun found => (found.1, found.2 ++ more) := by
  by_cases closed : ']' ∈ text
  · obtain ⟨opening, fits⟩ := bracketOpening_append closed more
    have length := List.length_drop (i := bracketOpening text) (l := text)
    have shorter := (List.takeWhile_prefix (· ≠ ']')
      (l := text.drop (bracketOpening text))).length_le
    unfold closeBracket?
    dsimp only
    rw [opening, List.drop_append_of_le_length fits, List.takeWhile_append,
      takeWhile_unclosed unclosed]
    by_cases whole : ((text.drop (bracketOpening text)).takeWhile (· ≠ ']')).length =
        (text.drop (bracketOpening text)).length
    · -- the only closing bracket belongs to the opening
      have ends : text.drop (bracketOpening text + (text.drop (bracketOpening text)).length) =
          [] := List.drop_eq_nil_of_le (by omega)
      have endsToo : (text ++ more).drop (bracketOpening text +
          (text.drop (bracketOpening text) ++ more).length) = [] :=
        List.drop_eq_nil_of_le (by rw [List.length_append, List.length_append]; omega)
      rw [if_pos whole, whole, ends, endsToo]
      rfl
    · rw [if_neg whole]
      generalize ((text.drop (bracketOpening text)).takeWhile (· ≠ ']')).length = size at *
      have inside : bracketOpening text + size < text.length := by omega
      rw [List.drop_append_of_le_length (Nat.le_of_lt inside),
        List.take_append_of_le_length (Nat.le_of_lt inside), List.drop_eq_getElem_cons inside]
      rfl
  · rw [closeBracket?_eq_none closed, closeBracket?_eq_none]
    · rfl
    · rw [List.mem_append]
      exact not_or.mpr ⟨closed, unclosed⟩

theorem elements_cons_bracket (rest : List Char) :
    elements ('[' :: rest) = match closeBracket? rest with
      | some (inside, after) => setElement inside :: elements after
      | none => .exactly '[' :: elements rest := by
  rw [elements]
  split <;> simp_all

/-- A wildcard is read on its own if what follows has no closing bracket. -/
theorem elements_append {text more : List Char} (unclosed : ']' ∉ more) :
    elements (text ++ more) = elements text ++ elements more := by
  -- only a bracket looks further than one character, and it stops before what follows
  fun_induction elements text with
  | case1 => rfl
  | case2 rest ih => rw [List.cons_append, elements, ih, List.cons_append]
  | case3 rest ih => rw [List.cons_append, elements, ih, List.cons_append]
  | case4 rest inside after closed _ ih =>
    rw [List.cons_append, elements_cons_bracket, closeBracket?_append unclosed, closed]
    exact congrArg (setElement inside :: ·) ih
  | case5 rest open' ih =>
    rw [List.cons_append, elements_cons_bracket, closeBracket?_append unclosed, open']
    exact congrArg (.exactly '[' :: ·) ih
  | case6 c rest star any bracket ih =>
    rw [List.cons_append, elements_cons_plain ⟨star, any, bracket⟩, ih, List.cons_append]

/-! ### Accepting -/

/-- Every element but a star accepts one character. -/
theorem matchElements_cons {element : Element} (single : element ≠ .anyText) (rest : List Element)
    (text : List Char) :
    matchElements (element :: rest) text = true ↔
      ∃ c tail, text = c :: tail ∧ element.holds c = true ∧ matchElements rest tail = true := by
  cases element with
  | anyText => exact absurd rfl single
  | _ => cases text <;> simp [matchElements, and_assoc]

/-- Elements in a row accept the names that can be cut into a part for each side. -/
theorem matchElements_append (first second : List Element) (text : List Char) :
    matchElements (first ++ second) text = true ↔
      ∃ front back, text = front ++ back ∧ matchElements first front = true ∧
        matchElements second back = true := by
  induction first generalizing text with
  | nil =>
    simp only [List.nil_append, matchElements, List.isEmpty_iff]
    constructor
    · intro matched
      exact ⟨[], text, rfl, rfl, matched⟩
    · rintro ⟨_, back, rfl, rfl, matched⟩
      exact matched
  | cons element first ih =>
    rw [List.cons_append]
    -- a star may take any part of the front, every other element takes its first character
    by_cases star : element = .anyText
    · subst star
      simp only [matchElements_anyText_cons, ih]
      constructor
      · rintro ⟨skipped, _, rfl, front, back, rfl, left, right⟩
        exact ⟨skipped ++ front, back, (List.append_assoc ..).symm, ⟨skipped, front, rfl, left⟩,
          right⟩
      · rintro ⟨_, back, rfl, ⟨skipped, front, rfl, left⟩, right⟩
        exact ⟨skipped, front ++ back, List.append_assoc .., front, back, rfl, left, right⟩
    · simp only [matchElements_cons star, ih]
      constructor
      · rintro ⟨c, _, rfl, holds, front, back, rfl, left, right⟩
        exact ⟨c :: front, back, rfl, ⟨c, front, rfl, holds, left⟩, right⟩
      · rintro ⟨_, back, rfl, ⟨c, front, rfl, holds, left⟩, right⟩
        exact ⟨c, front ++ back, rfl, holds, front, back, rfl, left, right⟩

/-- A wildcard followed by a text without closing brackets accepts the names that begin with a name
for the wildcard and go on with one for the text. -/
theorem matchSegment_append {ending : String} (unclosed : ']' ∉ ending.toList)
    (pattern segment : String) :
    matchSegment (pattern ++ ending) segment = true ↔
      ∃ front back, segment = front ++ back ∧ matchSegment pattern front = true ∧
        matchSegment ending back = true := by
  rw [matchSegment, String.toList_append, elements_append unclosed, matchElements_append]
  constructor
  · rintro ⟨front, back, whole, left, right⟩
    refine ⟨String.ofList front, String.ofList back, String.toList_injective ?_, ?_, ?_⟩
    · rw [String.toList_append, String.toList_ofList, String.toList_ofList, whole]
    · rwa [matchSegment, String.toList_ofList]
    · rwa [matchSegment, String.toList_ofList]
  · rintro ⟨front, back, rfl, left, right⟩
    exact ⟨front.toList, back.toList, String.toList_append, left, right⟩

end SpecLint.Glob
