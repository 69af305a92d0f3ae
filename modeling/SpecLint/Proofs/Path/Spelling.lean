import SpecLint.Proofs.Path.Checkout

/-!
# How paths are written

A path may be written in several ways, with repeated slashes and with `.` segments. Reading drops
these, and what is left is written in one way only, so different paths show as different texts.

## Main result

`Clean.ofString_toString`: a path without meaningless segments is read back as it was.
-/
namespace SpecLint

/-! ### Cutting what was joined -/

namespace Text

theorem splitOn_of_not_mem {separator : Char} {piece : List Char} (clean : separator ∉ piece) :
    splitOn separator piece = [piece] := by
  induction piece with
  | nil => rfl
  | cons c rest ih =>
    obtain ⟨other, clean⟩ := not_or.mp (mt List.mem_cons.mpr clean)
    rw [splitOn, if_neg (Ne.symm other), ih clean]

theorem splitOn_append {separator : Char} {piece : List Char} (clean : separator ∉ piece)
    (text : List Char) :
    splitOn separator (piece ++ separator :: text) = piece :: splitOn separator text := by
  induction piece with
  | nil => rw [List.nil_append, splitOn, if_pos rfl]
  | cons c rest ih =>
    obtain ⟨other, clean⟩ := not_or.mp (mt List.mem_cons.mpr clean)
    rw [List.cons_append, splitOn, if_neg (Ne.symm other), ih clean]

/-- Cutting undoes joining. -/
theorem splitOn_intercalate {separator : Char} {pieces : List (List Char)}
    (clean : ∀ piece ∈ pieces, separator ∉ piece) (nonempty : pieces ≠ []) :
    splitOn separator ([separator].intercalate pieces) = pieces := by
  induction pieces with
  | nil => exact absurd rfl nonempty
  | cons piece pieces ih =>
    have first := clean piece List.mem_cons_self
    cases pieces with
    | nil => rw [List.intercalate_singleton, splitOn_of_not_mem first]
    | cons next rest =>
      rw [List.intercalate_cons_cons, List.append_assoc, List.singleton_append,
        splitOn_append first,
        ih (fun other member => clean other (List.mem_cons_of_mem _ member)) (by simp)]

end Text

namespace Path

/-- A name that a directory may list: not empty, not the directory itself, without slashes. -/
def IsName (segment : String) : Prop := segment ≠ "" ∧ segment ≠ "." ∧ '/' ∉ segment.toList

instance (segment : String) : Decidable (IsName segment) :=
  inferInstanceAs (Decidable (segment ≠ "" ∧ segment ≠ "." ∧ '/' ∉ segment.toList))

/-- A path as it is when it was read. -/
structure Clean (path : Path) : Prop where
  root : path.root = "" ∨ path.root = "/" ∨ path.root = "//"
  names : ∀ segment ∈ path.segments, IsName segment

/-! ### Where clean paths come from -/

theorem clean_ofString (written : String) : Clean (ofString written) := by
  refine ⟨root_ofString written, fun segment member => ?_⟩
  refine ⟨?_, ?_, slash_not_mem_of_mem_segments member⟩ <;> rintro rfl <;>
    · obtain ⟨piece, kept, same⟩ := List.mem_map.mp member
      have meant := (List.mem_filter.mp kept).2
      rw [← String.toList_ofList (l := piece), same] at meant
      exact absurd meant (by decide)

theorem Clean.append {path : Path} (clean : Clean path) {segments : List String}
    (names : ∀ segment ∈ segments, IsName segment) :
    Clean ⟨path.root, path.segments ++ segments⟩ := by
  refine ⟨clean.root, fun segment member => ?_⟩
  rcases List.mem_append.mp member with above | below
  · exact clean.names segment above
  · exact names segment below

theorem Clean.div {base next : Path} (clean : Clean base) (cleanNext : Clean next) :
    Clean (base / next) := by
  show Clean (join base next)
  unfold join
  split
  · exact cleanNext
  · exact clean.append cleanNext.names

/-! ### Reading what was written -/

/-- The segments as one text. -/
def joined (segments : List String) : List Char := ['/'].intercalate (segments.map String.toList)

variable {segments : List String} (names : ∀ segment ∈ segments, IsName segment)
include names

theorem pieces_joined :
    (Text.splitOn '/' (joined segments)).filter (fun piece => piece ≠ [] ∧ piece ≠ ['.']) =
      segments.map String.toList := by
  cases segments with
  | nil => rfl
  | cons first rest =>
    rw [joined, Text.splitOn_intercalate ?clean (by simp), List.filter_eq_self]
    case clean =>
      intro piece member
      obtain ⟨segment, isSegment, rfl⟩ := List.mem_map.mp member
      exact (names segment isSegment).2.2
    intro piece member
    obtain ⟨segment, isSegment, rfl⟩ := List.mem_map.mp member
    obtain ⟨nonempty, noDot, -⟩ := names segment isSegment
    have isDot : segment.toList = ['.'] ↔ segment = "." := by
      rw [show ['.'] = ".".toList from rfl, String.toList_inj]
    simpa [isDot] using ⟨nonempty, noDot⟩

/-- No slash stands in front of the first segment. -/
theorem takeWhile_joined : (joined segments).takeWhile (· = '/') = [] := by
  cases segments with
  | nil => rfl
  | cons first rest =>
    obtain ⟨nonempty, -, noSlash⟩ := names first List.mem_cons_self
    cases chars : first.toList with
    | nil => exact absurd (String.toList_eq_nil_iff.mp chars) nonempty
    | cons c others =>
      rw [chars, List.mem_cons, not_or] at noSlash
      have other : ¬c = '/' := Ne.symm noSlash.1
      cases rest with
      | nil => simp [joined, chars, other]
      | cons next more => simp [joined, chars, other]

end Path

/-- A clean path is read back as it was. -/
theorem Path.Clean.ofString_toString {path : Path} (clean : path.Clean) :
    Path.ofString path.toString = path := by
  obtain ⟨root, segments⟩ := path
  have first : (joined segments).takeWhile (· = '/') = [] := takeWhile_joined clean.names
  have pieces : ((Text.splitOn '/' (joined segments)).filter fun piece =>
      piece ≠ [] ∧ piece ≠ ['.']).map String.ofList = segments := by
    rw [pieces_joined clean.names]
    simp [Function.comp_def]
  unfold Path.toString
  split
  next empty =>
    obtain ⟨rfl, rfl⟩ : root = "" ∧ segments = [] := empty
    rfl
  next =>
    have chars : (root ++ "/".intercalate segments).toList = root.toList ++ joined segments := by
      rw [String.toList_append, String.toList_intercalate]
      rfl
    -- the slashes of the root cut off empty pieces, which are dropped
    rw [ofString, chars]
    rcases clean.root with rfl | rfl | rfl <;> simpa [first, Text.splitOn] using pieces

/-- Different clean paths are written differently. -/
theorem Path.Clean.toString_injective {left right : Path} (leftClean : left.Clean)
    (rightClean : right.Clean) (same : left.toString = right.toString) : left = right := by
  rw [← leftClean.ofString_toString, same, rightClean.ofString_toString]

end SpecLint
