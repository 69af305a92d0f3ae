import SpecLint.Regex.Reader

/-!
# Searching with patterns

A match is sought by trying the alternatives of a pattern in order, each followed by what comes
after it in the pattern. A spot keeps the text on both sides, so positions, boundaries and
look-behinds need no index. A loop beyond its least count goes on only where the text gets shorter,
which is why every search ends.
-/
namespace SpecLint.Regex

structure Spot where
  /-- The text before the spot, nearest character first. -/
  before : List Char
  rest : List Char
  captures : List (Nat × List Char)
  deriving Repr

namespace Spot

def atStart (text : List Char) : Spot := ⟨[], text, []⟩

/-- The spot after the next character. -/
def advance? (spot : Spot) : Option (Char × Spot) :=
  match spot.rest with
  | [] => none
  | c :: rest => some (c, ⟨c :: spot.before, rest, spot.captures⟩)

/-- The spot `count` characters back. -/
def back? (spot : Spot) : Nat → Option Spot
  | 0 => some spot
  | count + 1 =>
    match spot.before with
    | [] => none
    | c :: before => back? ⟨before, c :: spot.rest, spot.captures⟩ count

/-- Move past a text. -/
def skip? (spot : Spot) (folding : Folding) : List Char → Option Spot
  | [] => some spot
  | c :: text =>
    match spot.advance? with
    | some (d, after) =>
      if folding.same c d then skip? after folding text else none
    | none => none

/-- The text between an earlier spot and this one. -/
def since (spot earlier : Spot) : List Char :=
  earlier.rest.take (earlier.rest.length - spot.rest.length)

def capture (spot : Spot) (index : Nat) (text : List Char) : Spot :=
  { spot with captures := (index, text) :: spot.captures.filter (·.1 ≠ index) }

theorem advance?_length {spot after : Spot} {c : Char} (moved : spot.advance? = some (c, after)) :
    after.rest.length < spot.rest.length := by
  obtain ⟨before, rest, captures⟩ := spot
  cases rest with
  | nil => simp [advance?] at moved
  | cons d tail =>
    simp only [advance?, Option.some.injEq, Prod.mk.injEq] at moved
    obtain ⟨_, rfl⟩ := moved
    simp

/-- Whether there is no text at all around the spot: in an empty text there is no boundary, and no
place that is none either. -/
def inEmptyText (spot : Spot) : Bool := spot.before.isEmpty && spot.rest.isEmpty

end Spot

/-- Whether an ASCII-only or full word boundary stands at the spot. -/
def isBoundaryAt (ascii : Bool) (spot : Spot) : Bool :=
  let inWord (c : Option Char) : Bool := c.elim false fun c => Category.word.holds ascii c
  inWord spot.before.head? != inWord spot.rest.head?

/-- The size of a pattern, whatever the counts of its loops. -/
def size : Regex → Nat
  | seq first second | alt first second | choose _ first second => first.size + second.size + 1
  | group _ body | loop _ _ _ body | atomic body | ahead _ body | behind _ body => body.size + 1
  | _ => 1

/-- How often a loop must still go round. -/
def due : Regex → Nat
  | loop least _ _ _ => least
  | _ => 0

/-- The spot after the first way in which the pattern matches here and `follow` accepts the end. -/
def matchAt (widths : Nat → Width) :
    Regex → Spot → (Spot → Option Spot) → Option Spot
  | empty, spot, follow => follow spot
  | oneOf negated folding items, spot, follow =>
    match spot.advance? with
    | some (c, after) => if negated != inSet folding items c then follow after else none
    | none => none
  | any lines, spot, follow =>
    match spot.advance? with
    | some (c, after) => if lines ∨ c ≠ '\n' then follow after else none
    | none => none
  | lineStart every, spot, follow =>
    if spot.before = [] ∨ (every ∧ spot.before.head? = some '\n') then follow spot else none
  | lineEnd every, spot, follow =>
    if spot.rest = [] ∨ spot.rest = ['\n'] ∨ (every ∧ spot.rest.head? = some '\n') then follow spot
    else none
  | textStart, spot, follow => if spot.before = [] then follow spot else none
  | textEnd, spot, follow => if spot.rest = [] then follow spot else none
  | boundary ascii negated, spot, follow =>
    if spot.inEmptyText = false ∧ negated != isBoundaryAt ascii spot then follow spot else none
  | seq first second, spot, follow =>
    matchAt widths first spot fun middle => matchAt widths second middle follow
  | alt first second, spot, follow =>
    match matchAt widths first spot follow with
    | some found => some found
    | none => matchAt widths second spot follow
  | group none body, spot, follow => matchAt widths body spot follow
  | group (some index) body, spot, follow =>
    matchAt widths body spot fun after => follow (after.capture index (after.since spot))
  | loop (least + 1) most greed body, spot, follow =>
    match greed with
    | .possessive =>
      match matchAt widths body spot fun after =>
          matchAt widths (loop least (most.map (· - 1)) .greedy body) after some with
      | some after => follow after
      | none => none
    | _ =>
      matchAt widths body spot fun after =>
        matchAt widths (loop least (most.map (· - 1)) greed body) after follow
  | loop 0 most greed body, spot, follow =>
    let more (follow : Spot → Option Spot) : Option Spot :=
      if most = some 0 then none
      else matchAt widths body spot fun after =>
        if after.rest.length < spot.rest.length then
          matchAt widths (loop 0 (most.map (· - 1)) (if greed = .lazy then .lazy else .greedy) body)
            after follow
        else none
    match greed with
    | .greedy =>
      match more follow with
      | some found => some found
      | none => follow spot
    | .lazy =>
      match follow spot with
      | some found => some found
      | none => more follow
    | .possessive => follow ((more some).getD spot)
  | atomic body, spot, follow =>
    match matchAt widths body spot some with
    | some after => follow after
    | none => none
  | ahead negated body, spot, follow =>
    match matchAt widths body spot some with
    | some after => if negated then none else follow ⟨spot.before, spot.rest, after.captures⟩
    | none => if negated then follow spot else none
  | behind negated body, spot, follow =>
    let found := (spot.back? (body.width widths).least).bind fun earlier =>
      matchAt widths body earlier fun after =>
        if after.rest.length = spot.rest.length then some after else none
    match found with
    | some after => if negated then none else follow ⟨spot.before, spot.rest, after.captures⟩
    | none => if negated then follow spot else none
  | again folding index, spot, follow =>
    match spot.captures.lookup index with
    | some text => (spot.skip? folding text).bind follow
    | none => none
  | choose index yes no, spot, follow =>
    if (spot.captures.lookup index).isSome then matchAt widths yes spot follow
    else matchAt widths no spot follow
termination_by pattern spot => (pattern.size, pattern.due, spot.rest.length)
decreasing_by all_goals (simp_wf; simp [Prod.lex_def, size, due]; try omega)

/-- The spots of a text from a given one on. -/
def spotsFrom (before : List Char) : List Char → List Spot
  | [] => [⟨before, [], []⟩]
  | c :: rest => ⟨before, c :: rest, []⟩ :: spotsFrom (c :: before) rest

/-- Whether the pattern matches somewhere in the text. -/
def found (widths : Nat → Width) (pattern : Regex) (text : List Char) : Bool :=
  (spotsFrom [] text).any fun spot => (matchAt widths pattern spot some).isSome

theorem length_spotsFrom (before text : List Char) :
    (spotsFrom before text).length = text.length + 1 := by
  induction text generalizing before with
  | nil => rfl
  | cons c rest ih => simp [spotsFrom, ih]

/-- The spots of a text are its cuts into a front and a rest. -/
theorem mem_spotsFrom {before text : List Char} {spot : Spot} :
    spot ∈ spotsFrom before text ↔
      ∃ front rest, text = front ++ rest ∧ spot = ⟨front.reverse ++ before, rest, []⟩ := by
  induction text generalizing before with
  | nil =>
    simp only [spotsFrom, List.mem_singleton]
    constructor
    · rintro rfl
      exact ⟨[], [], rfl, rfl⟩
    · rintro ⟨front, rest, cut, rfl⟩
      obtain ⟨rfl, rfl⟩ := List.append_eq_nil_iff.mp cut.symm
      rfl
  | cons c text ih =>
    simp only [spotsFrom, List.mem_cons, ih]
    constructor
    · rintro (rfl | ⟨front, rest, rfl, rfl⟩)
      · exact ⟨[], c :: text, rfl, rfl⟩
      · exact ⟨c :: front, rest, rfl, by simp⟩
    · rintro ⟨front, rest, cut, rfl⟩
      cases front with
      | nil => exact Or.inl (by simpa using cut.symm)
      | cons d front =>
        obtain ⟨rfl, rfl⟩ := List.cons.inj cut
        exact Or.inr ⟨front, rest, rfl, by simp⟩

/-- A pattern is found in a text exactly if it matches at one of its cuts. -/
theorem found_iff (widths : Nat → Width) (pattern : Regex) (text : List Char) :
    found widths pattern text = true ↔
      ∃ front rest, text = front ++ rest ∧
        (matchAt widths pattern ⟨front.reverse, rest, []⟩ some).isSome = true := by
  simp only [found, List.any_eq_true, mem_spotsFrom, List.append_nil]
  constructor
  · rintro ⟨_, ⟨front, rest, cut, rfl⟩, accepted⟩
    exact ⟨front, rest, cut, accepted⟩
  · rintro ⟨front, rest, cut, accepted⟩
    exact ⟨_, ⟨front, rest, cut, rfl⟩, accepted⟩

end SpecLint.Regex
