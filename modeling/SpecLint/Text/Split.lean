/-!
# Cutting text at separators

Cutting keeps everything but the separators: the pieces joined by the separator are the text again.
-/
namespace SpecLint.Text

/-- The pieces between occurrences of `separator`; there is always at least one. -/
def splitOn (separator : Char) : List Char → List (List Char)
  | [] => [[]]
  | c :: rest =>
    if c = separator then [] :: splitOn separator rest
    else match splitOn separator rest with
      | [] => [[c]]
      | piece :: pieces => (c :: piece) :: pieces

/-- The pieces between doubled occurrences of `separator`, scanned from the left. -/
def splitOnDouble (separator : Char) : List Char → List (List Char)
  | [] => [[]]
  | [c] => [[c]]
  | c :: d :: rest =>
    if c = separator ∧ d = separator then [] :: splitOnDouble separator rest
    else match splitOnDouble separator (d :: rest) with
      | [] => [[c]]
      | piece :: pieces => (c :: piece) :: pieces

/-- The text after the last doubled `separator`, if there is one. -/
def afterLastDouble (separator : Char) : List Char → Option (List Char)
  | [] => none
  | c :: rest =>
    (afterLastDouble separator rest).or
      (match rest with
        | d :: tail => if c = separator ∧ d = separator then some tail else none
        | [] => none)

/-- Pieces with `separator` between them. -/
def joinWith (separator : List Char) : List (List Char) → List Char
  | [] => []
  | [piece] => piece
  | piece :: pieces => piece ++ separator ++ joinWith separator pieces

theorem splitOn_ne_nil (separator : Char) (text : List Char) : splitOn separator text ≠ [] := by
  cases text with
  | nil => simp [splitOn]
  | cons c rest =>
    simp only [splitOn]
    split
    · simp
    · split <;> simp

/-- Joining undoes cutting. -/
theorem joinWith_splitOn (separator : Char) (text : List Char) :
    joinWith [separator] (splitOn separator text) = text := by
  induction text with
  | nil => rfl
  | cons c rest ih =>
    simp only [splitOn]
    split
    next same =>
      cases pieces : splitOn separator rest with
      | nil => exact absurd pieces (splitOn_ne_nil separator rest)
      | cons piece others => simp [joinWith, ← pieces, ih, same]
    next other =>
      cases pieces : splitOn separator rest with
      | nil => exact absurd pieces (splitOn_ne_nil separator rest)
      | cons piece others =>
        rw [pieces] at ih
        cases others with
        | nil => simpa [joinWith] using ih
        | cons next more => simpa [joinWith] using ih

/-- No piece contains the separator. -/
theorem not_mem_of_mem_splitOn (separator : Char) (text piece : List Char)
    (member : piece ∈ splitOn separator text) : separator ∉ piece := by
  induction text generalizing piece with
  | nil => simp_all [splitOn]
  | cons c rest ih =>
    simp only [splitOn] at member
    split at member
    next =>
      rcases List.mem_cons.mp member with rfl | later
      · simp
      · exact ih piece later
    next other =>
      cases pieces : splitOn separator rest with
      | nil => exact absurd pieces (splitOn_ne_nil separator rest)
      | cons first others =>
        rw [pieces] at member
        rcases List.mem_cons.mp member with rfl | later
        · have inner := ih first (by simp [pieces])
          simp only [List.mem_cons, not_or]
          exact ⟨fun same => other same.symm, inner⟩
        · exact ih piece (by simp [pieces, later])

end SpecLint.Text
