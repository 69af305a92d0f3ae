import SpecLint.Glob.Segment

/-!
# Wildcards with one star

Characters that are no wildcard signs stand for themselves. A wildcard of such characters with one
star among them therefore accepts a name exactly if the name starts with what stands before the star
and goes on, anywhere behind that, with what stands after it.

## Main result

`matchSegment_star`: the names that such a wildcard accepts.
-/
namespace SpecLint.Glob

/-- No character of the text is a wildcard sign. -/
def IsPlain (text : List Char) : Prop := ∀ c ∈ text, c ≠ '*' ∧ c ≠ '?' ∧ c ≠ '['

/-- A text is checked sign by sign. -/
instance (text : List Char) : Decidable (IsPlain text) := List.decidableBAll _ text

theorem elements_cons_plain {c : Char} (plain : c ≠ '*' ∧ c ≠ '?' ∧ c ≠ '[') (rest : List Char) :
    elements (c :: rest) = .exactly c :: elements rest := by
  obtain ⟨star, any, bracket⟩ := plain
  rw [elements]
  · exact star
  · exact any
  · exact bracket

/-- A plain beginning of a wildcard stands for itself. -/
theorem elements_append_plain {text : List Char} (plain : IsPlain text) (rest : List Char) :
    elements (text ++ rest) = text.map .exactly ++ elements rest := by
  induction text with
  | nil => rfl
  | cons c text ih =>
    have here := plain c (by simp)
    have behind : IsPlain text := fun d member => plain d (by simp [member])
    rw [List.cons_append, elements_cons_plain here, ih behind]
    rfl

theorem elements_plain {text : List Char} (plain : IsPlain text) :
    elements text = text.map .exactly := by
  have whole := elements_append_plain plain []
  rw [List.append_nil] at whole
  rw [whole, elements, List.append_nil]

/-- Elements that stand for themselves accept exactly their text at the start. -/
theorem matchElements_exactly_append (lead : List Char) (rest : List Element) (text : List Char) :
    matchElements (lead.map .exactly ++ rest) text = true ↔
      ∃ tail, text = lead ++ tail ∧ matchElements rest tail = true := by
  induction lead generalizing text with
  | nil => simp
  | cons c lead ih =>
    cases text with
    | nil => simp [matchElements]
    | cons d text =>
      have split : matchElements ((c :: lead).map .exactly ++ rest) (d :: text) =
          (decide (d = c) && matchElements (lead.map .exactly ++ rest) text) := rfl
      rw [split, Bool.and_eq_true, decide_eq_true_eq, ih]
      constructor
      · rintro ⟨rfl, tail, rfl, matched⟩
        exact ⟨tail, rfl, matched⟩
      · rintro ⟨tail, equal, matched⟩
        rw [List.cons_append, List.cons.injEq] at equal
        exact ⟨equal.1, tail, equal.2, matched⟩

theorem matchElements_exactly (lead text : List Char) :
    matchElements (lead.map .exactly) text = true ↔ text = lead := by
  have whole := matchElements_exactly_append lead [] text
  simpa [matchElements] using whole

/-- A star skips any text. -/
theorem matchElements_anyText_cons (rest : List Element) (text : List Char) :
    matchElements (.anyText :: rest) text = true ↔
      ∃ skipped tail, text = skipped ++ tail ∧ matchElements rest tail = true := by
  simp only [matchElements, List.any_eq_true, mem_suffixes]
  constructor
  · rintro ⟨tail, ⟨skipped, equal⟩, matched⟩
    exact ⟨skipped, tail, equal, matched⟩
  · rintro ⟨skipped, tail, equal, matched⟩
    exact ⟨tail, ⟨skipped, equal⟩, matched⟩

/-- A wildcard with one star accepts the names made by putting some text in its place. -/
theorem matchSegment_star {lead ending : String} (before : IsPlain lead.toList)
    (after : IsPlain ending.toList) (segment : String) :
    matchSegment (lead ++ "*" ++ ending) segment = true ↔
      ∃ text, segment = lead ++ text ++ ending := by
  have read : elements (lead ++ "*" ++ ending).toList =
      lead.toList.map .exactly ++ .anyText :: ending.toList.map .exactly := by
    have star : elements ('*' :: ending.toList) = .anyText :: elements ending.toList := by
      rw [elements]
    have written : (lead ++ "*" ++ ending).toList = lead.toList ++ '*' :: ending.toList := by simp
    rw [written, elements_append_plain before, star, elements_plain after]
  rw [matchSegment, read, matchElements_exactly_append]
  simp only [matchElements_anyText_cons, matchElements_exactly]
  constructor
  · rintro ⟨_, whole, skipped, _, rfl, rfl⟩
    refine ⟨String.ofList skipped, String.toList_injective ?_⟩
    simpa using whole
  · rintro ⟨text, rfl⟩
    exact ⟨text.toList ++ ending.toList, by simp, text.toList, ending.toList, rfl, rfl⟩

end SpecLint.Glob
