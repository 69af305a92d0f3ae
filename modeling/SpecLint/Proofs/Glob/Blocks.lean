import SpecLint.Glob.Basic
import SpecLint.Proofs.Glob.Pieces
import SpecLint.Proofs.Path.Spelling

/-!
# Blocks of a path

A glob without braces cuts a path into consecutive blocks, one for each of its segments. A `**` with
a segment behind it takes a block of any length, every other segment takes exactly one segment of
the path. What a segment matches is left open: all this holds whatever the test for single segments.

## Main result

`acceptsBy_iff_blocks`

## Proof strategy

The matcher and the blocks are compared by induction on the segments of the pattern; a block is cut
off where the matcher goes on with a suffix of the path.
-/
namespace SpecLint

/-- Text is cut at each separator, so before and behind it separately. -/
theorem Text.splitOn_append_separator (separator : Char) (front back : List Char) :
    splitOn separator (front ++ separator :: back) =
      splitOn separator front ++ splitOn separator back := by
  induction front with
  | nil => simp [splitOn]
  | cons c front ih =>
    rw [List.cons_append, splitOn, splitOn]
    split
    · rw [ih]
      rfl
    · rw [ih]
      cases pieces : splitOn separator front with
      | nil => exact absurd pieces (splitOn_ne_nil separator front)
      | cons piece others => rfl

namespace Glob

/-- The blocks of a path that the segments of a pattern stand for. -/
structure Fits (test : String → String → Bool) (segments : List String)
    (blocks : List (List String)) : Prop where
  paired : blocks.length = segments.length
  single : ∀ i segment block, segments[i]? = some segment → blocks[i]? = some block →
    ¬(segment = "**" ∧ i + 1 < segments.length) →
      ∃ part, block = [part] ∧ test (wildcardOf segment) part = true

variable {test : String → String → Bool}

/-! ### The blocks of the segments one by one -/

theorem fits_nil_iff {blocks : List (List String)} : Fits test [] blocks ↔ blocks = [] := by
  constructor
  · intro fits
    exact List.eq_nil_of_length_eq_zero fits.paired
  · rintro rfl
    exact ⟨rfl, by simp⟩

theorem fits_cons_iff {segment : String} {rest : List String} {blocks : List (List String)} :
    Fits test (segment :: rest) blocks ↔ ∃ block others, blocks = block :: others ∧
      (¬(segment = "**" ∧ rest ≠ []) →
        ∃ part, block = [part] ∧ test (wildcardOf segment) part = true) ∧
      Fits test rest others := by
  constructor
  · rintro ⟨paired, single⟩
    obtain ⟨block, others, rfl⟩ := List.exists_cons_of_length_eq_add_one paired
    refine ⟨block, others, rfl, fun alone => ?_, by simpa using paired, ?_⟩
    · refine single 0 segment block rfl rfl fun spans => alone ⟨spans.1, ?_⟩
      rintro rfl
      simp at spans
    · intro i next taken isNext isTaken alone
      refine single (i + 1) next taken isNext isTaken fun spans => alone ⟨spans.1, ?_⟩
      simpa using spans.2
  · rintro ⟨block, others, rfl, here, paired, single⟩
    refine ⟨by simp [paired], fun i next taken isNext isTaken alone => ?_⟩
    cases i with
    | zero =>
      simp only [List.getElem?_cons_zero, Option.some.injEq] at isNext isTaken
      subst isNext isTaken
      refine here fun spans => alone ⟨spans.1, ?_⟩
      simpa using List.length_pos_iff.mpr spans.2
    | succ i =>
      refine single i next taken isNext isTaken fun spans => alone ⟨spans.1, ?_⟩
      simpa using spans.2

/-! ### The matcher -/

/-- A `**` with a segment behind it skips any number of segments. -/
theorem matchSegments_span {rest : List String} (more : rest ≠ []) (parts : List String) :
    matchSegments test parts ("**" :: rest) = true ↔
      ∃ skipped tail, parts = skipped ++ tail ∧ matchSegments test tail rest = true := by
  rw [matchSegments_cons, if_pos ⟨rfl, more⟩, List.any_eq_true]
  simp only [mem_suffixes]
  constructor
  · rintro ⟨tail, ⟨skipped, split⟩, matched⟩
    exact ⟨skipped, tail, split, matched⟩
  · rintro ⟨skipped, tail, split, matched⟩
    exact ⟨tail, ⟨skipped, split⟩, matched⟩

theorem matchSegments_single {segment : String} {rest : List String}
    (alone : ¬(segment = "**" ∧ rest ≠ [])) (parts : List String) :
    matchSegments test parts (segment :: rest) = true ↔
      ∃ part others, parts = part :: others ∧ test (wildcardOf segment) part = true ∧
        matchSegments test others rest = true := by
  rw [matchSegments_cons, if_neg alone]
  cases parts with
  | nil => simp
  | cons part others => simp [and_assoc]

/-- A pattern matches the paths that can be cut into blocks for its segments. -/
theorem matchSegments_iff_blocks {parts segments : List String} :
    matchSegments test parts segments = true ↔
      ∃ blocks, parts = blocks.flatten ∧ Fits test segments blocks := by
  induction segments generalizing parts with
  | nil =>
    rw [matchSegments_nil, List.isEmpty_iff]
    constructor
    · rintro rfl
      exact ⟨[], rfl, fits_nil_iff.mpr rfl⟩
    · rintro ⟨blocks, rfl, fits⟩
      rw [fits_nil_iff.mp fits]
      rfl
  | cons segment rest ih =>
    by_cases spans : segment = "**" ∧ rest ≠ []
    · obtain ⟨rfl, more⟩ := spans
      rw [matchSegments_span more]
      constructor
      · rintro ⟨skipped, tail, rfl, matched⟩
        obtain ⟨blocks, rfl, fits⟩ := ih.mp matched
        exact ⟨skipped :: blocks, by simp,
          fits_cons_iff.mpr ⟨skipped, blocks, rfl, fun alone => absurd ⟨rfl, more⟩ alone, fits⟩⟩
      · rintro ⟨blocks, rfl, fits⟩
        obtain ⟨block, others, rfl, -, fits⟩ := fits_cons_iff.mp fits
        exact ⟨block, others.flatten, by simp, ih.mpr ⟨others, rfl, fits⟩⟩
    · rw [matchSegments_single spans]
      constructor
      · rintro ⟨part, others, rfl, passes, matched⟩
        obtain ⟨blocks, rfl, fits⟩ := ih.mp matched
        exact ⟨[part] :: blocks, by simp,
          fits_cons_iff.mpr ⟨[part], blocks, rfl, fun _ => ⟨part, rfl, passes⟩, fits⟩⟩
      · rintro ⟨blocks, rfl, fits⟩
        obtain ⟨block, others, rfl, single, later⟩ := fits_cons_iff.mp fits
        obtain ⟨part, rfl, passes⟩ := single spans
        exact ⟨part, others.flatten, by simp, passes, ih.mpr ⟨others, rfl, later⟩⟩

/-- Something must be left for the last segment. -/
theorem matchSegments_no_parts {segments : List String} (some : segments ≠ []) :
    matchSegments test [] segments = false := by
  rw [Bool.eq_false_iff]
  intro matched
  induction segments with
  | nil => exact some rfl
  | cons segment rest ih =>
    by_cases spans : segment = "**" ∧ rest ≠ []
    · obtain ⟨rfl, more⟩ := spans
      obtain ⟨skipped, tail, split, later⟩ := (matchSegments_span more []).mp matched
      rw [(List.append_eq_nil_iff.mp split.symm).2] at later
      exact ih more later
    · obtain ⟨part, others, split, -⟩ := (matchSegments_single spans []).mp matched
      cases split

/-- Without a `**` in front of other segments, path and pattern have equally many segments. -/
theorem length_of_matchSegments {parts segments : List String} (noSpan : "**" ∉ segments.dropLast)
    (matched : matchSegments test parts segments = true) : parts.length = segments.length := by
  induction segments generalizing parts with
  | nil => rw [matchSegments_nil, List.isEmpty_iff] at matched; rw [matched]
  | cons segment rest ih =>
    have alone : ¬(segment = "**" ∧ rest ≠ []) := by
      rintro ⟨rfl, more⟩
      exact noSpan (by simp [List.dropLast_cons_of_ne_nil more])
    obtain ⟨part, others, rfl, -, later⟩ := (matchSegments_single alone parts).mp matched
    have noSpanLater : "**" ∉ rest.dropLast := fun member => noSpan <| by
      rw [List.dropLast_cons_of_ne_nil (fun empty => by simp [empty] at member)]
      exact List.mem_cons_of_mem _ member
    rw [List.length_cons, List.length_cons, ih noSpanLater later]

/-! ### Runs -/

/-- Patterns that match the same paths do so behind the same segments. -/
theorem matchSegments_append_congr {left right : List String} (some : left ≠ [])
    (other : right ≠ [])
    (same : ∀ parts, matchSegments test parts left = matchSegments test parts right)
    (front : List String) (parts : List String) :
    matchSegments test parts (front ++ left) = matchSegments test parts (front ++ right) := by
  induction front generalizing parts with
  | nil => exact same parts
  | cons segment front ih =>
    have more : front ++ left ≠ [] := List.append_ne_nil_of_right_ne_nil front some
    have moreToo : front ++ right ≠ [] := List.append_ne_nil_of_right_ne_nil front other
    rw [List.cons_append, List.cons_append, matchSegments_cons, matchSegments_cons]
    simp only [ne_eq, more, moreToo, not_false_eq_true, and_true, ih]

/-- A `**` in front of another one skips nothing that this could not skip. -/
theorem matchSegments_doubled {rest : List String} (more : rest ≠ []) (parts : List String) :
    matchSegments test parts ("**" :: "**" :: rest) = matchSegments test parts ("**" :: rest) := by
  rw [Bool.eq_iff_iff, matchSegments_span (List.cons_ne_nil _ _)]
  constructor
  · rintro ⟨skipped, tail, rfl, later⟩
    obtain ⟨next, left, rfl, matched⟩ := (matchSegments_span more tail).mp later
    exact (matchSegments_span more _).mpr ⟨skipped ++ next, left, by simp, matched⟩
  · intro matched
    exact ⟨[], parts, rfl, matched⟩

theorem matchSegments_run {rest : List String} (more : rest ≠ []) (count : Nat)
    (parts : List String) :
    matchSegments test parts (List.replicate (count + 1) "**" ++ rest) =
      matchSegments test parts ("**" :: rest) := by
  induction count with
  | zero => rfl
  | succ count ih =>
    have again : List.replicate (count + 1 + 1) "**" ++ rest =
        "**" :: "**" :: (List.replicate count "**" ++ rest) := rfl
    rw [again, matchSegments_doubled (List.append_ne_nil_of_right_ne_nil _ more)]
    exact ih

/-! ### Patterns as texts -/

/-- Some `**` in a row, each with its slash. -/
def stars (count : Nat) : List Char := (List.replicate count ['*', '*', '/']).flatten

theorem isPiece_stars (count : Nat) : IsPiece (stars count) := by
  intro c member
  obtain ⟨star, inRun, isStar⟩ := List.mem_flatten.mp member
  rw [List.eq_of_mem_replicate inRun] at isStar
  simp only [List.mem_cons, List.not_mem_nil, or_false] at isStar
  rcases isStar with rfl | rfl | rfl <;> simp [IsLiteral]

theorem slashPieces_ne_nil (text : List Char) : slashPieces text ≠ [] := by
  simp [slashPieces, Text.splitOn_ne_nil]

theorem slashPieces_append (front back : List Char) :
    slashPieces (front ++ '/' :: back) = slashPieces front ++ slashPieces back := by
  simp [slashPieces, Text.splitOn_append_separator]

theorem slashPieces_stars (count : Nat) (rest : List Char) :
    slashPieces (stars count ++ rest) = List.replicate count "**" ++ slashPieces rest := by
  induction count with
  | zero => rfl
  | succ count ih =>
    have first : stars (count + 1) ++ rest = ['*', '*'] ++ '/' :: (stars count ++ rest) := by
      simp [stars, List.replicate_succ]
    have cut : slashPieces ['*', '*'] = ["**"] := by decide
    rw [first, slashPieces_append, ih, cut]
    rfl

theorem any_congr_forall₂ {α : Type} {R : α → α → Prop} {f g : α → Bool} {left right : List α}
    (related : List.Forall₂ R left right) (same : ∀ a b, R a b → f a = g b) :
    left.any f = right.any g := by
  induction related with
  | nil => rfl
  | cons here _ ih => rw [List.any_cons, List.any_cons, same _ _ here, ih]

/-- Behind plain text that ends a segment, a run of `**` is as good as one. -/
theorem acceptsBy_run (path : String) (lead pattern : List Char) (count : Nat)
    (bounded : lead = [] ∨ ∃ front, lead = front ++ ['/']) :
    acceptsBy test path (String.ofList (lead ++ (stars (count + 1) ++ pattern))) =
      acceptsBy test path (String.ofList (lead ++ (stars 1 ++ pattern))) := by
  unfold acceptsBy
  rw [String.toList_ofList, String.toList_ofList]
  rcases bounded with rfl | ⟨front, rfl⟩
  · rw [List.nil_append, List.nil_append, expandBraces_prepend (isPiece_stars _).plain,
      expandBraces_prepend (isPiece_stars _).plain, List.any_map, List.any_map]
    congr 1
    funext expanded
    simp only [Function.comp_apply, slashPieces_stars]
    exact matchSegments_run (slashPieces_ne_nil _) count _
  · -- with its slash in front, the run is a run of segments wherever it comes out
    have slashed (number : Nat) : IsPiece ('/' :: stars number) :=
      List.forall_mem_cons.mpr ⟨by simp [IsLiteral], isPiece_stars number⟩
    have exchanged : Exchanged ('/' :: stars (count + 1)) ('/' :: stars 1)
        (front ++ ['/'] ++ (stars (count + 1) ++ pattern))
        (front ++ ['/'] ++ (stars 1 ++ pattern)) :=
      .inr ⟨front, pattern, by simp, by simp⟩
    refine any_congr_forall₂
      (expandBraces_exchanged (slashed (count + 1)) (slashed 1) exchanged) fun left right same => ?_
    rcases same with rfl | ⟨before, behind, rfl, rfl⟩
    · rfl
    · simp only [List.cons_append, slashPieces_append, slashPieces_stars]
      have some := slashPieces_ne_nil behind
      exact matchSegments_append_congr (List.append_ne_nil_of_right_ne_nil _ some)
        (List.append_ne_nil_of_right_ne_nil _ some) (matchSegments_run some count) _ _

/-- A pattern behind `**/` is looked for at every segment. -/
theorem acceptsBy_stars_iff (path pattern : String) :
    acceptsBy test path ("**/" ++ pattern) = true ↔
      ∃ suffix : String, slashPieces suffix.toList <:+ slashPieces path.toList ∧
        acceptsBy test suffix pattern = true := by
  have written : ("**/" ++ pattern).toList = stars 1 ++ pattern.toList := by simp [stars]
  simp only [acceptsBy, written, expandBraces_prepend (isPiece_stars 1).plain, List.any_map,
    List.any_eq_true, Function.comp_apply, slashPieces_stars]
  constructor
  · rintro ⟨expanded, member, matched⟩
    obtain ⟨skipped, tail, split, matched⟩ :=
      (matchSegments_span (slashPieces_ne_nil _) _).mp matched
    -- the segments that are left are the segments of a path
    have some : tail ≠ [] := by
      rintro rfl
      rw [matchSegments_no_parts (slashPieces_ne_nil _)] at matched
      cases matched
    have noSlash : ∀ part ∈ tail, '/' ∉ part.toList := by
      intro part isPart
      have inPath : part ∈ slashPieces path.toList := by
        rw [split]
        exact List.mem_append_right _ isPart
      obtain ⟨piece, isPiece, rfl⟩ := List.mem_map.mp inPath
      rw [String.toList_ofList]
      exact Text.not_mem_of_mem_splitOn '/' _ piece isPiece
    have whole : slashPieces (Path.joined tail) = tail := by
      rw [slashPieces, Path.joined, Text.splitOn_intercalate (by simpa using noSlash) (by simpa)]
      simp [Function.comp_def]
    refine ⟨String.ofList (Path.joined tail), ?_, expanded, member, ?_⟩
    · rw [String.toList_ofList, whole, split]
      exact List.suffix_append skipped tail
    · rwa [String.toList_ofList, whole]
  · rintro ⟨suffix, ⟨skipped, split⟩, expanded, member, matched⟩
    refine ⟨expanded, member, ?_⟩
    exact (matchSegments_span (slashPieces_ne_nil _) _).mpr ⟨skipped, _, split.symm, matched⟩

/-- Whatever is taken for a match of single segments: a glob matches a path exactly if, for one of
the patterns it stands for, the path can be cut into consecutive blocks, of any length for each `**`
with a segment behind it and of one matching segment for all others. So without such a `**` path
and pattern have equally many segments, a run of them matches what one of them does, and a pattern
behind `**/` matches the paths that end with a path it matches. -/
theorem acceptsBy_iff_blocks (test : String → String → Bool) (path pattern : String) :
    (acceptsBy test path pattern = true ↔
      ∃ expanded ∈ expandBraces pattern.toList, ∃ blocks,
        slashPieces path.toList = blocks.flatten ∧ Fits test (slashPieces expanded) blocks) ∧
    ('\x7b' ∉ pattern.toList → "**" ∉ (slashPieces pattern.toList).dropLast →
      acceptsBy test path pattern = true →
        (slashPieces path.toList).length = (slashPieces pattern.toList).length) ∧
    (∀ count parts front rest, rest ≠ [] →
      matchSegments test parts (front ++ (List.replicate (count + 1) "**" ++ rest)) =
        matchSegments test parts (front ++ "**" :: rest)) ∧
    (∀ count lead, (lead = [] ∨ ∃ front, lead = front ++ ['/']) →
      acceptsBy test path (String.ofList (lead ++ (stars (count + 1) ++ pattern.toList))) =
        acceptsBy test path (String.ofList (lead ++ (stars 1 ++ pattern.toList)))) ∧
    (acceptsBy test path ("**/" ++ pattern) = true ↔
      ∃ suffix : String, slashPieces suffix.toList <:+ slashPieces path.toList ∧
        acceptsBy test suffix pattern = true) := by
  refine ⟨?_, ?_, ?_, fun count lead => acceptsBy_run path lead pattern.toList count,
    acceptsBy_stars_iff path pattern⟩
  · simp only [acceptsBy, List.any_eq_true, matchSegments_iff_blocks]
  · intro plain noSpan matched
    rw [acceptsBy, expandBraces_plain (firstGroup?_plain plain), List.any_cons, List.any_nil,
      Bool.or_false] at matched
    exact length_of_matchSegments noSpan matched
  · intro count parts front rest some
    exact matchSegments_append_congr (List.append_ne_nil_of_right_ne_nil _ some)
      (List.cons_ne_nil _ _) (matchSegments_run some count) front parts

/-- Alternatives with a directory of any depth below them, a wildcard without such a directory, and
a run of two `**`. -/
theorem acceptsBy_iff_blocks_services :
    (∃ expanded ∈ expandBraces "app/\x7bmodels,services\x7d/**/*.rb".toList, ∃ blocks,
      slashPieces "app/services/billing/x.rb".toList = blocks.flatten ∧
        Fits matchSegment (slashPieces expanded) blocks) ∧
    (accepts "app/services/x.rb" "app/services/*" = true ∧
      (slashPieces "app/services/x.rb".toList).length =
        (slashPieces "app/services/*".toList).length) ∧
    accepts "lib/app/services/x.rb" "**/**/app/services/*" = true := by
  obtain ⟨blocks, -⟩ := acceptsBy_iff_blocks matchSegment "app/services/billing/x.rb"
    "app/\x7bmodels,services\x7d/**/*.rb"
  obtain ⟨-, lengths, -⟩ := acceptsBy_iff_blocks matchSegment "app/services/x.rb" "app/services/*"
  obtain ⟨-, -, -, runs, -⟩ :=
    acceptsBy_iff_blocks matchSegment "lib/app/services/x.rb" "app/services/*"
  have single : accepts "app/services/x.rb" "app/services/*" = true := by decide +kernel
  refine ⟨blocks.mp (by decide +kernel),
    ⟨single, lengths (by decide) (by decide) single⟩, ?_⟩
  exact (runs 1 [] (.inl rfl)).trans (by decide +kernel)

end Glob

end SpecLint
