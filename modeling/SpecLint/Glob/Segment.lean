/-!
# Wildcards within one path segment

`*` stands for any text, `?` for one character and `[...]` for one character of a set; `[!...]`
takes the complement. A bracket that is never closed stands for itself. Ranges whose ends are out of
order are dropped from a set together with both ends; a set that becomes empty matches nothing, an
empty complement matches every character.
-/
namespace SpecLint.Glob

inductive SetItem where
  | single (c : Char)
  | range (low high : Char)
  deriving DecidableEq, Repr

def SetItem.holds (c : Char) : SetItem → Bool
  | .single d => c = d
  | .range low high => low ≤ c && c ≤ high

/-- One element of a segment pattern. -/
inductive Element where
  | anyText
  | anyChar
  | exactly (c : Char)
  | oneOf (negated : Bool) (items : List SetItem)
  deriving DecidableEq, Repr

def Element.holds (c : Char) : Element → Bool
  | .anyText => false
  | .anyChar => true
  | .exactly d => c = d
  | .oneOf negated items => negated != items.any (·.holds c)

/-- The inside of a bracket cut at the hyphens that make ranges. A hyphen counts from position
`skip` on; after one, the next two characters cannot be another. -/
def cutRanges : Nat → List Char → List (List Char)
  | _, [] => [[]]
  | 0, '-' :: rest => [] :: cutRanges 2 rest
  | skip, c :: rest =>
    match cutRanges (skip - 1) rest with
    | [] => [[c]]
    | chunk :: chunks => (c :: chunk) :: chunks

/-- An empty last chunk is a hyphen at the end of the set, which stands for itself. -/
def closeChunks : List (List Char) → List (List Char)
  | [chunk, []] => [chunk ++ ['-']]
  | chunk :: chunks => chunk :: closeChunks chunks
  | [] => []

/-- Drop ranges that are out of order, from the right. -/
def dropEmptyRanges : List (List Char) → List (List Char)
  | [] => []
  | chunk :: chunks =>
    match dropEmptyRanges chunks with
    | [] => [chunk]
    | next :: others =>
      match chunk.getLast?, next.head? with
      | some low, some high =>
        if high < low then (chunk.dropLast ++ next.tail) :: others else chunk :: next :: others
      | _, _ => chunk :: next :: others

/-- The inside of a set as characters and range hyphens. -/
inductive SetToken where
  | char (c : Char)
  | hyphen
  deriving DecidableEq, Repr

def setTokens : List (List Char) → List SetToken
  | [] => []
  | [chunk] => chunk.map .char
  | chunk :: chunks => chunk.map .char ++ .hyphen :: setTokens chunks

def setItems : List SetToken → List SetItem
  | .char low :: .hyphen :: .char high :: rest => .range low high :: setItems rest
  | .char c :: rest => .single c :: setItems rest
  | .hyphen :: rest => .single '-' :: setItems rest
  | [] => []

/-- The element for a bracket with this inside. -/
def setElement (inside : List Char) : Element :=
  let chunks := match inside with
    | '!' :: _ => cutRanges 2 inside
    | _ => cutRanges 1 inside
  let tokens := setTokens (dropEmptyRanges (closeChunks chunks))
  match tokens with
  | .char '!' :: rest => .oneOf true (setItems rest)
  | _ => .oneOf false (setItems tokens)

/-- How many characters at the start of a bracket cannot close it: a complement mark, and a closing
bracket in first place or directly after the mark. -/
def bracketOpening : List Char → Nat
  | '!' :: ']' :: _ => 2
  | '!' :: _ => 1
  | ']' :: _ => 1
  | _ => 0

/-- The inside of a bracket and the text after it. -/
def closeBracket? (text : List Char) : Option (List Char × List Char) :=
  let size := bracketOpening text +
    ((text.drop (bracketOpening text)).takeWhile (· ≠ ']')).length
  match text.drop size with
  | _ :: after => some (text.take size, after)
  | [] => none

/-- What remains after a bracket is shorter than what stood after its opening. -/
theorem closeBracket?_shorter {text inside after : List Char}
    (closed : closeBracket? text = some (inside, after)) : after.length < text.length := by
  simp only [closeBracket?] at closed
  split at closed
  next c tail remaining =>
    simp only [Option.some.injEq, Prod.mk.injEq] at closed
    obtain ⟨_, rfl⟩ := closed
    have sizes := congrArg List.length remaining
    simp only [List.length_drop, List.length_cons] at sizes
    omega
  next => simp at closed

/-- The elements of a segment pattern. -/
def elements (pattern : List Char) : List Element :=
  match pattern with
  | [] => []
  | '*' :: rest => .anyText :: elements rest
  | '?' :: rest => .anyChar :: elements rest
  | '[' :: rest =>
    match closed : closeBracket? rest with
    | some (inside, after) =>
      have := closeBracket?_shorter closed
      setElement inside :: elements after
    | none => .exactly '[' :: elements rest
  | c :: rest => .exactly c :: elements rest
termination_by pattern.length

/-- All ways to drop a beginning of a list, the list itself first. -/
def suffixes {α : Type} : List α → List (List α)
  | [] => [[]]
  | item :: rest => (item :: rest) :: suffixes rest

theorem mem_suffixes {α : Type} {tail whole : List α} :
    tail ∈ suffixes whole ↔ ∃ skipped, whole = skipped ++ tail := by
  induction whole with
  | nil => simp [suffixes]
  | cons item rest ih =>
    simp only [suffixes, List.mem_cons, ih]
    constructor
    · rintro (rfl | ⟨skipped, rfl⟩)
      · exact ⟨[], rfl⟩
      · exact ⟨item :: skipped, rfl⟩
    · rintro ⟨skipped, equal⟩
      cases skipped with
      | nil => exact .inl equal.symm
      | cons first others =>
        simp only [List.cons_append, List.cons.injEq] at equal
        exact .inr ⟨others, equal.2⟩

def matchElements : List Element → List Char → Bool
  | [], text => text.isEmpty
  | .anyText :: rest, text => (suffixes text).any (matchElements rest)
  | element :: rest, text =>
    match text with
    | [] => false
    | c :: tail => element.holds c && matchElements rest tail

/-- Whether the whole segment matches the pattern. -/
def matchSegment (pattern segment : String) : Bool :=
  matchElements (elements pattern.toList) segment.toList

/-- A trailing `*` accepts every continuation. -/
theorem matchElements_anyText (text : List Char) : matchElements [.anyText] text = true := by
  simp only [matchElements, List.any_eq_true]
  exact ⟨[], mem_suffixes.mpr ⟨text, by simp⟩, rfl⟩

end SpecLint.Glob
