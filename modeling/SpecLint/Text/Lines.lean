/-!
# Line ends

Text is read with one kind of line end: a carriage return, alone or followed by a line feed, is a
line feed. What is printed has lines between line ends of every kind.
-/
namespace SpecLint.Text

def unifyLines : List Char → List Char
  | [] => []
  | '\r' :: '\n' :: rest => '\n' :: unifyLines rest
  | '\r' :: rest => '\n' :: unifyLines rest
  | c :: rest => c :: unifyLines rest

theorem not_mem_unifyLines (text : List Char) : '\r' ∉ unifyLines text := by
  fun_induction unifyLines text with
  | case1 => simp
  | case2 rest ih => simpa using ih
  | case3 rest _ ih => simpa using ih
  | case4 c rest _ other ih =>
    simp only [List.mem_cons, not_or]
    exact ⟨fun same => other same.symm, ih⟩

/-- Text without carriage returns is left alone. -/
theorem unifyLines_eq_self (text : List Char) (absent : '\r' ∉ text) : unifyLines text = text := by
  fun_induction unifyLines text with
  | case1 => rfl
  | case2 rest ih => simp at absent
  | case3 rest _ ih => simp at absent
  | case4 c rest _ _ ih =>
    simp only [List.mem_cons, not_or] at absent
    rw [ih absent.2]

/-- Unifying line ends once is enough. -/
theorem unifyLines_idempotent (text : List Char) :
    unifyLines (unifyLines text) = unifyLines text :=
  unifyLines_eq_self _ (not_mem_unifyLines text)

/-- Line feeds, page feeds, separators of files, groups and records, next lines and the line and
paragraph separators. -/
def isLineEnd (c : Char) : Bool :=
  ['\n', '\x0b', '\x0c', '\r', '\x1c', '\x1d', '\x1e', '\u0085', '\u2028', '\u2029'].contains c

/-- The lines of a text. The last one needs no line end. -/
def linesOf : List Char → List (List Char)
  | [] => []
  | '\r' :: '\n' :: rest => [] :: linesOf rest
  | c :: rest =>
    if isLineEnd c then [] :: linesOf rest
    else match linesOf rest with
      | [] => [[c]]
      | first :: others => (c :: first) :: others

/-- No line holds a line end. -/
theorem not_isLineEnd_of_mem_linesOf (text line : List Char) (member : line ∈ linesOf text) :
    ∀ c ∈ line, isLineEnd c = false := by
  fun_induction linesOf text generalizing line with
  | case1 => simp at member
  | case2 rest ih =>
    rcases List.mem_cons.1 member with rfl | later
    · simp
    · exact ih line later
  | case3 c rest _ ends ih =>
    rcases List.mem_cons.1 member with rfl | later
    · simp
    · exact ih line later
  | case4 c rest _ inside _ _ =>
    simp only [List.mem_singleton] at member
    subst member
    simpa using inside
  | case5 c rest _ inside first others found ih =>
    rcases List.mem_cons.1 member with rfl | later
    · intro d at_d
      rcases List.mem_cons.1 at_d with rfl | deeper
      · simpa using inside
      · exact ih first (by simp [found]) d deeper
    · exact ih line (by simp [found, later])

end SpecLint.Text
