import SpecLint.Proofs.Spec.PhraseExtent
import SpecLint.Proofs.Text.Folding

/-!
# The language of each phrase

A phrase stands in a text where its characters do, at the start of a word. The name in it is taken
as it is, whatever its characters are. Where letter case is ignored, it is ignored in the character
behind the name as well.

## Main result

`Phrase.first?_language`: the texts in which each phrase is found, and which phrase is found first.
-/
namespace SpecLint.Spec

open SpecLint.Text

/-- The start of a word: no word character comes before. -/
def StartsWord (before : List Char) : Prop := ∀ c ∈ before.getLast?, isWord c = false

/-- At the start of a word stand characters that pass a test, along with those behind them. -/
def Within (text : List Char) (test : List Char → List Char → Prop) : Prop :=
  ∃ before written after, text = before ++ (written ++ after) ∧ StartsWord before ∧
    test written after

/-- An optional `f` or `x`, a word, blanks, and a title between two quotes. -/
def HeaderText (word title written : List Char) : Prop :=
  ∃ focus gap first last, written = focus ++ (word ++ (gap ++ first :: (title ++ [last]))) ∧
    focus ∈ [[], ['f'], ['x']] ∧ IsGap gap ∧ isQuote first = true ∧ isQuote last = true

/-- The characters that go on with a name, up to letter case. -/
def nameCharacters : List Char :=
  "ABCDEFGHIJKLMNOPQRSTUVWXYZabcdefghijklmnopqrstuvwxyz0123456789_?!=".toList

/-- A name ends before a text that is empty or begins with none of these characters, where letter
case is ignored as in the name itself. -/
def NameEnds (after : List Char) : Prop :=
  ∀ c ∈ after.head?, ∀ d ∈ nameCharacters, sameFold d c = false

/-! ### Behind the name -/

theorem inRanges_nameRanges_iff {code : Nat} :
    inRanges nameRanges code = true ↔ code ∈ nameCharacters.map Char.toNat := by
  have small : ∀ code < 128,
      (inRanges nameRanges code = true ↔ code ∈ nameCharacters.map Char.toNat) := by
    decide +kernel
  by_cases ascii : code < 128
  · exact small code ascii
  · constructor
    · intro member
      obtain ⟨range, listed, -, high⟩ := exists_range_of_inRanges member
      have ends : ∀ range ∈ nameRanges, range.2 < 128 := by decide
      have bound := ends range listed
      omega
    · intro member
      have bounds : ∀ code ∈ nameCharacters.map Char.toNat, code < 128 := by decide
      exact absurd (bounds code member) ascii

theorem continuesName_iff {c : Char} :
    continuesName c = true ↔ ∃ d ∈ nameCharacters, sameFold d c = true := by
  simp only [continuesName, List.any_eq_true, inRanges_nameRanges_iff, List.mem_map]
  constructor
  · rintro ⟨_, source, d, member, rfl⟩
    refine ⟨d, member, ?_⟩
    rw [sameFold_comm]
    exact mem_foldSources_iff.mp source
  · rintro ⟨d, member, same⟩
    rw [sameFold_comm] at same
    exact ⟨d.toNat, mem_foldSources_iff.mpr same, d, member, rfl⟩

-- the long s is an s when letter case is ignored
example : continuesName 'ſ' = true := by decide +kernel

theorem nameEnds_iff {after : List Char} :
    NameEnds after ↔ after.head?.any continuesName = false := by
  cases after with
  | nil => simp [NameEnds]
  | cons c rest =>
    simp only [NameEnds, List.head?_cons, Option.mem_some_iff, forall_eq', Option.any_some,
      ← Bool.not_eq_true, continuesName_iff, not_exists, not_and]

/-! ### The start of a word -/

/-- A boundary before a word character is the start of a word. -/
theorem isBoundary_iff_startsWord {before : List Char} {c : Char} (word : isWord c = true) :
    isBoundary before.getLast? (some c) = true ↔ StartsWord before := by
  unfold isBoundary StartsWord
  cases before.getLast? with
  | none => simp [word]
  | some d => simp [word]

theorem isWord_of_sameFold_i {c : Char} (same : sameFold 'i' c = true) : isWord c = true := by
  have all : ∀ code ∈ foldSources 'i', isWord (Char.ofNat code) = true := by decide
  have here := all c.toNat (mem_foldSources_iff.mpr same)
  rwa [Char.ofNat_toNat] at here

/-- The letter that focuses a header is taken off, if it is there. -/
theorem afterFocus_eq_cons_iff {written rest : List Char} {c : Char} (other : c ≠ 'f' ∧ c ≠ 'x') :
    afterFocus written = c :: rest ↔
      ∃ focus ∈ [[], ['f'], ['x']], written = focus ++ c :: rest := by
  have unfocused : ¬(c = 'f' ∨ c = 'x') := not_or.mpr other
  cases written with
  | nil => simp [afterFocus]
  | cons d tail =>
    simp only [afterFocus]
    split
    next focused =>
      constructor
      · rintro rfl
        exact ⟨[d], by simpa using focused, rfl⟩
      · rintro ⟨focus, isFocus, shape⟩
        -- the text begins with another letter than the word does
        have first : focus ≠ [] := by
          rintro rfl
          rw [List.nil_append, List.cons.injEq] at shape
          exact unfocused (shape.1 ▸ focused)
        simp only [List.mem_cons, List.not_mem_nil, or_false, first, false_or] at isFocus
        rcases isFocus with rfl | rfl <;> exact (List.cons.inj shape).2
    next plain =>
      constructor
      · intro same
        exact ⟨[], by simp, same⟩
      · rintro ⟨focus, isFocus, shape⟩
        simp only [List.mem_cons, List.not_mem_nil, or_false] at isFocus
        rcases isFocus with rfl | rfl | rfl
        · exact shape
        · exact absurd (.inl (List.cons.inj shape).1) plain
        · exact absurd (.inr (List.cons.inj shape).1) plain

theorem headerSpelled_iff_headerText {word title written : List Char}
    (other : ∃ c rest, word = c :: rest ∧ c ≠ 'f' ∧ c ≠ 'x') :
    HeaderSpelled word title written ↔ HeaderText word title written := by
  obtain ⟨c, rest, rfl, other⟩ := other
  simp only [HeaderSpelled, HeaderText, List.cons_append, afterFocus_eq_cons_iff other]
  constructor
  · rintro ⟨gap, first, last, ⟨focus, isFocus, rfl⟩, isGap, openQuote, closeQuote⟩
    exact ⟨focus, gap, first, last, rfl, isFocus, isGap, openQuote, closeQuote⟩
  · rintro ⟨focus, gap, first, last, rfl, isFocus, isGap, openQuote, closeQuote⟩
    exact ⟨gap, first, last, ⟨focus, isFocus, rfl⟩, isGap, openQuote, closeQuote⟩

theorem HeaderText.isWord_head {word title written : List Char}
    (begins : ∃ c rest, word = c :: rest ∧ isWord c = true)
    (shape : HeaderText word title written) :
    ∃ c rest, written = c :: rest ∧ isWord c = true := by
  obtain ⟨c, rest, rfl, isLetter⟩ := begins
  obtain ⟨focus, gap, first, last, rfl, isFocus, -⟩ := shape
  simp only [List.mem_cons, List.not_mem_nil, or_false] at isFocus
  rcases isFocus with rfl | rfl | rfl
  · exact ⟨c, _, rfl, isLetter⟩
  · exact ⟨'f', _, rfl, by decide⟩
  · exact ⟨'x', _, rfl, by decide⟩

theorem ExampleSpelled.isWord_head {name written : List Char}
    (spelled : ExampleSpelled name written) :
    ∃ c rest, written = c :: rest ∧ isWord c = true := by
  obtain ⟨word, gap, quote, verb, read, plural, space, named, rfl, isIt, -⟩ := spelled
  obtain ⟨c, rest, same, -, rfl⟩ := List.forall₂_cons_left_iff.mp isIt
  exact ⟨c, _, rfl, isWord_of_sameFold_i same⟩

theorem headerSpelled_describe {title written : List Char} :
    HeaderSpelled "describe".toList title written ↔ HeaderText "describe".toList title written :=
  headerSpelled_iff_headerText ⟨'d', "escribe".toList, rfl, by decide⟩

theorem headerSpelled_context {title written : List Char} :
    HeaderSpelled "context".toList title written ↔ HeaderText "context".toList title written :=
  headerSpelled_iff_headerText ⟨'c', "ontext".toList, rfl, by decide⟩

/-- In a list that is ordered by rank, a search finds the member of the lowest rank that passes. -/
theorem find?_eq_some_iff_rank {α : Type} {rank : α → Nat} {items : List α}
    (ordered : items.Pairwise fun left right => rank left < rank right) {test : α → Bool}
    {item : α} :
    items.find? test = some item ↔ item ∈ items ∧ test item = true ∧
      ∀ other ∈ items, rank other < rank item → test other = false := by
  induction items with
  | nil => simp
  | cons first items ih =>
    obtain ⟨lowest, others⟩ := List.pairwise_cons.mp ordered
    rw [List.find?_cons]
    cases passes : test first with
    | true =>
      simp only [Option.some.injEq]
      constructor
      · rintro rfl
        refine ⟨List.mem_cons_self, passes, fun other member lower => ?_⟩
        -- no member has a lower rank than the first one
        rcases List.mem_cons.mp member with rfl | later
        · omega
        · have := lowest other later
          omega
      · rintro ⟨member, -, fail⟩
        rcases List.mem_cons.mp member with same | later
        · exact same.symm
        · rw [fail first List.mem_cons_self (lowest item later)] at passes
          cases passes
    | false =>
      rw [ih others]
      constructor
      · rintro ⟨member, holds, fail⟩
        refine ⟨List.mem_cons_of_mem _ member, holds, fun other listed lower => ?_⟩
        rcases List.mem_cons.mp listed with rfl | later
        · exact passes
        · exact fail other later lower
      · rintro ⟨member, holds, fail⟩
        have differs : item ≠ first := by
          rintro rfl
          rw [passes] at holds
          cases holds
        refine ⟨(List.mem_cons.mp member).resolve_left differs, holds, fun other later => ?_⟩
        exact fail other (List.mem_cons_of_mem _ later)

namespace Phrase

variable {phrase : Phrase} {key : HeaderKey} {text : List Char}

/-- Every phrase begins with a word character. -/
theorem Spelled.isWord_head {written : List Char} (spelled : phrase.Spelled key written) :
    ∃ c rest, written = c :: rest ∧ isWord c = true := by
  have describe : ∃ c rest, "describe".toList = c :: rest ∧ isWord c = true :=
    ⟨'d', "escribe".toList, rfl, by decide⟩
  have context : ∃ c rest, "context".toList = c :: rest ∧ isWord c = true :=
    ⟨'c', "ontext".toList, rfl, by decide⟩
  cases phrase with
  | describeHeader => exact (headerSpelled_describe.mp spelled).isWord_head describe
  | contextHeader => exact (headerSpelled_context.mp spelled).isWord_head context
  | verification => exact ExampleSpelled.isWord_head spelled
  | bareDescribe => exact (headerSpelled_describe.mp spelled).isWord_head describe

theorem accepts_iff_within : phrase.accepts key text = true ↔
    Within text fun written after => phrase.Spelled key written ∧ phrase.EndsBefore after := by
  rw [accepts_iff_reads]
  constructor
  · rintro ⟨before, written, after, rfl, spelled, ends, boundary⟩
    obtain ⟨c, rest, rfl, word⟩ := spelled.isWord_head
    exact ⟨before, c :: rest, after, rfl, (isBoundary_iff_startsWord word).mp boundary, spelled,
      ends⟩
  · rintro ⟨before, written, after, rfl, starts, spelled, ends⟩
    obtain ⟨c, rest, rfl, word⟩ := spelled.isWord_head
    have boundary := (isBoundary_iff_startsWord word).mpr starts
    exact ⟨before, c :: rest, after, rfl, spelled, ends, boundary⟩

/-- The place of a phrase among those that are tried. -/
def rank : Phrase → Nat
  | describeHeader => 0
  | contextHeader => 1
  | verification => 2
  | bareDescribe => 3

theorem first?_eq_some_iff : first? key text = some phrase ↔ phrase.accepts key text = true ∧
    ∀ earlier : Phrase, earlier.rank < phrase.rank → earlier.accepts key text = false := by
  have tried : all.Pairwise fun left right => left.rank < right.rank := by decide
  simp only [first?, find?_eq_some_iff_rank tried, mem_all, true_and, true_implies]

theorem first?_eq_none_iff :
    first? key text = none ↔ ∀ phrase : Phrase, phrase.accepts key text = false := by
  simp only [first?, List.find?_eq_none, mem_all, true_implies, Bool.not_eq_true]

/-- The texts in which each phrase is found, for any key and any name in it. The first phrase found
is the one that has no other before it, in the order in which they are declared. -/
theorem first?_language (key : HeaderKey) (text : List Char) :
    (describeHeader.accepts key text = true ↔
        Within text fun written _ => HeaderText "describe".toList key.chars written) ∧
      (contextHeader.accepts key text = true ↔
        Within text fun written _ => HeaderText "context".toList key.chars written) ∧
      (verification.accepts key text = true ↔
        Within text fun written after => ExampleSpelled key.name written ∧ NameEnds after) ∧
      (bareDescribe.accepts key text = true ↔
        Within text fun written _ => HeaderText "describe".toList key.name written) ∧
      (∀ phrase : Phrase, first? key text = some phrase ↔ phrase.accepts key text = true ∧
        ∀ earlier : Phrase, earlier.rank < phrase.rank → earlier.accepts key text = false) ∧
      (first? key text = none ↔ ∀ phrase : Phrase, phrase.accepts key text = false) := by
  refine ⟨?_, ?_, ?_, ?_, fun _ => first?_eq_some_iff, first?_eq_none_iff⟩
  · simp only [accepts_iff_within, Spelled, EndsBefore, reduceCtorEq, false_implies, and_true,
      headerSpelled_describe]
  · simp only [accepts_iff_within, Spelled, EndsBefore, reduceCtorEq, false_implies, and_true,
      headerSpelled_context]
  · simp only [accepts_iff_within, Spelled, EndsBefore, true_implies, nameEnds_iff]
  · simp only [accepts_iff_within, Spelled, EndsBefore, reduceCtorEq, false_implies, and_true,
      headerSpelled_describe]

end Phrase

end SpecLint.Spec
