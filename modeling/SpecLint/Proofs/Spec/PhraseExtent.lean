import SpecLint.Proofs.Spec.Phrases
import Mathlib.Data.List.Forall2

/-!
# How far a phrase reads

A phrase that stands in a text reads some of its characters and leaves the rest alone; only a phrase
of an example also looks at the character that comes next, which must not go on with the name. So a
phrase stands wherever the same characters stand at a word boundary, whatever lies further off.

## Main result

`Phrase.accepts_iff_reads`
-/
namespace SpecLint.Spec

open SpecLint.Text

/-- At least one blank and nothing else. -/
def IsGap (gap : List Char) : Prop := gap ≠ [] ∧ ∀ c ∈ gap, isBlank c = true

/-- Characters that match others when letter case is ignored. -/
def Folds (expected read : List Char) : Prop :=
  List.Forall₂ (fun c d => sameFold c d = true) expected read

/-- The characters of a header phrase, from the letter that focuses it to the closing quote. -/
def HeaderSpelled (word title consumed : List Char) : Prop :=
  ∃ gap first last, afterFocus consumed = word ++ (gap ++ first :: (title ++ [last])) ∧
    IsGap gap ∧ isQuote first = true ∧ isQuote last = true

/-- The characters of an example phrase, up to the end of the name. -/
def ExampleSpelled (name consumed : List Char) : Prop :=
  ∃ word gap quote verb read plural space written,
    consumed = word ++ (gap ++ quote :: (read ++ (plural ++ (space ++ written)))) ∧
      Folds ['i', 't'] word ∧ IsGap gap ∧ isQuote quote = true ∧ verb ∈ verificationVerbs ∧
      Folds verb read ∧ (plural = [] ∨ Folds ['s'] plural) ∧ IsGap space ∧ Folds name written

/-! ### Blanks -/

/-- What holds of the characters of all blank ranges holds of all blanks. -/
theorem forall_blank (test : Char → Bool)
    (all : (blankRanges.all fun range =>
      (List.range (range.2 + 1 - range.1)).all fun offset =>
        test (Char.ofNat (range.1 + offset))) = true)
    {c : Char} (blank : isBlank c = true) : test c = true := by
  obtain ⟨range, member, low, high⟩ := exists_range_of_inRanges blank
  have inRange := List.all_eq_true.mp (List.all_eq_true.mp all range member)
    (c.toNat - range.1) (by simp; omega)
  have code : range.1 + (c.toNat - range.1) = c.toNat := by omega
  rwa [code, Char.ofNat_toNat] at inRange

theorem isWord_of_isBlank {c : Char} (blank : isBlank c = true) : isWord c = false := by
  have all := forall_blank (fun c => !isWord c) (by decide +kernel) blank
  simpa using all

/-- A plural is not taken for the blank behind it. -/
theorem not_sameFold_of_isBlank {c : Char} (blank : isBlank c = true) : sameFold 's' c = false := by
  have all := forall_blank (fun c => !sameFold 's' c) (by decide +kernel) blank
  simpa using all

/-! ### Parts of an example phrase -/

theorem afterFolded?_eq_some_iff {expected text rest : List Char} :
    afterFolded? expected text = some rest ↔ ∃ read, text = read ++ rest ∧ Folds expected read := by
  induction expected generalizing text with
  | nil =>
    rw [afterFolded?, Option.some.injEq]
    constructor
    · rintro rfl
      exact ⟨[], rfl, .nil⟩
    · rintro ⟨read, rfl, folds⟩
      rw [List.forall₂_nil_left_iff.mp folds, List.nil_append]
  | cons c expected ih =>
    cases text with
    | nil =>
      simp only [afterFolded?, reduceCtorEq, false_iff]
      rintro ⟨read, nothing, folds⟩
      rw [(List.append_eq_nil_iff.mp nothing.symm).1] at folds
      cases folds
    | cons d text =>
      rw [afterFolded?]
      constructor
      · intro found
        split at found
        next same =>
          obtain ⟨read, rfl, folds⟩ := ih.mp found
          exact ⟨d :: read, rfl, .cons same folds⟩
        next => cases found
      · rintro ⟨read, split, folds⟩
        obtain ⟨e, more, same, others, rfl⟩ := List.forall₂_cons_left_iff.mp folds
        obtain ⟨rfl, rfl⟩ := List.cons.inj split
        rw [if_pos same]
        exact ih.mpr ⟨more, rfl, others⟩

theorem afterFolded?_append {expected read : List Char} (folds : Folds expected read)
    (rest : List Char) : afterFolded? expected (read ++ rest) = some rest :=
  afterFolded?_eq_some_iff.mpr ⟨read, rfl, folds⟩

theorem mem_blankTails_iff {text rest : List Char} :
    rest ∈ blankTails text ↔ ∃ gap, text = gap ++ rest ∧ IsGap gap := by
  induction text with
  | nil =>
    simp only [blankTails, List.not_mem_nil, false_iff]
    rintro ⟨gap, nothing, nonempty, -⟩
    exact nonempty (List.append_eq_nil_iff.mp nothing.symm).1
  | cons c text ih =>
    rw [blankTails]
    constructor
    · intro member
      split at member
      next blank =>
        rcases List.mem_cons.mp member with rfl | later
        · exact ⟨[c], rfl, by simp, by simpa using blank⟩
        · obtain ⟨gap, rfl, -, blanks⟩ := ih.mp later
          exact ⟨c :: gap, rfl, by simp, List.forall_mem_cons.mpr ⟨blank, blanks⟩⟩
      next => cases member
    · rintro ⟨gap, split, nonempty, blanks⟩
      obtain ⟨d, more, rfl⟩ := List.exists_cons_of_ne_nil nonempty
      obtain ⟨rfl, rfl⟩ := List.cons.inj split
      obtain ⟨blank, others⟩ := List.forall_mem_cons.mp blanks
      rw [if_pos blank]
      -- the gap ends with the first blank, or with one of those after it
      by_cases last : more = []
      · subst last
        exact List.mem_cons_self
      · exact List.mem_cons_of_mem _ (ih.mpr ⟨more, rfl, last, others⟩)

/-- The end of the verb, with or without its plural. -/
theorem exists_afterPlural (text : List Char) :
    ∃ plural, text = plural ++ afterPlural text ∧ (plural = [] ∨ Folds ['s'] plural) := by
  unfold afterPlural
  cases found : afterFolded? ['s'] text with
  | none => exact ⟨[], rfl, .inl rfl⟩
  | some rest =>
    obtain ⟨plural, split, folds⟩ := afterFolded?_eq_some_iff.mp found
    exact ⟨plural, split, .inr folds⟩

theorem afterPlural_append {plural gap rest : List Char}
    (isPlural : plural = [] ∨ Folds ['s'] plural) (isGap : IsGap gap) :
    afterPlural (plural ++ (gap ++ rest)) = gap ++ rest := by
  unfold afterPlural
  rcases isPlural with rfl | folds
  · -- the verb is followed by a blank, which is no plural
    obtain ⟨c, more, rfl⟩ := List.exists_cons_of_ne_nil isGap.1
    have blank := not_sameFold_of_isBlank (isGap.2 c (by simp))
    simp [afterFolded?, blank]
  · rw [afterFolded?_append folds, Option.getD_some]

/-- What may follow the name. -/
theorem isVerification_iff {name verb text : List Char} :
    isVerification name verb text = true ↔
      ∃ read plural space written after,
        text = read ++ (plural ++ (space ++ (written ++ after))) ∧ Folds verb read ∧
          (plural = [] ∨ Folds ['s'] plural) ∧ IsGap space ∧ Folds name written ∧
          after.head?.any continuesName = false := by
  unfold isVerification
  constructor
  · intro holds
    split at holds
    next => cases holds
    next rest isVerb =>
      obtain ⟨read, rfl, folds⟩ := afterFolded?_eq_some_iff.mp isVerb
      obtain ⟨named, isTail, ends⟩ := List.any_eq_true.mp holds
      obtain ⟨plural, split, isPlural⟩ := exists_afterPlural rest
      obtain ⟨space, behind, isGap⟩ := mem_blankTails_iff.mp isTail
      rw [behind] at split
      cases found : afterFolded? name named with
      | none => simp [found] at ends
      | some after =>
        obtain ⟨written, rfl, isName⟩ := afterFolded?_eq_some_iff.mp found
        refine ⟨read, plural, space, written, after, by rw [split], folds, isPlural, isGap, isName,
          ?_⟩
        cases after <;> simp_all
  · rintro ⟨read, plural, space, written, after, rfl, isVerb, isPlural, isGap, isName, ends⟩
    -- the search tries every end of the blanks, so also the one where the name begins
    have isTail : written ++ after ∈
        blankTails (afterPlural (plural ++ (space ++ (written ++ after)))) := by
      rw [afterPlural_append isPlural isGap]
      exact mem_blankTails_iff.mpr ⟨space, rfl, isGap⟩
    rw [afterFolded?_append isVerb]
    refine List.any_eq_true.mpr ⟨_, isTail, ?_⟩
    rw [afterFolded?_append isName]
    cases after <;> simp_all

/-! ### Whole phrases -/

/-- An example phrase stands where its characters do, if the name ends there. -/
theorem isExampleOf_iff {name text : List Char} :
    isExampleOf name text = true ↔ ∃ consumed after, text = consumed ++ after ∧
      ExampleSpelled name consumed ∧ after.head?.any continuesName = false := by
  have opening {rest : List Char} :
      (do
        let rest ← afterFolded? ['i', 't'] text
        let rest ← afterBlanks? rest
        afterQuote? rest) = some rest ↔
      ∃ word gap quote, text = word ++ (gap ++ quote :: rest) ∧ Folds ['i', 't'] word ∧
        IsGap gap ∧ isQuote quote = true := by
    simp only [Option.bind_eq_bind, Option.bind_eq_some_iff, afterFolded?_eq_some_iff]
    constructor
    · rintro ⟨_, ⟨word, rfl, isIt⟩, _, blanks, quoted⟩
      obtain ⟨quote, rfl, isFirst⟩ := afterQuote?_eq_some_iff.mp quoted
      obtain ⟨gap, rfl, isGap⟩ :=
        (afterBlanks?_eq_some_cons_iff (not_isBlank_of_isQuote isFirst)).mp blanks
      exact ⟨word, gap, quote, rfl, isIt, isGap, isFirst⟩
    · rintro ⟨word, gap, quote, rfl, isIt, isGap, isFirst⟩
      exact ⟨_, ⟨word, rfl, isIt⟩, quote :: rest,
        (afterBlanks?_eq_some_cons_iff (not_isBlank_of_isQuote isFirst)).mpr ⟨gap, rfl, isGap⟩,
        afterQuote?_eq_some_iff.mpr ⟨quote, rfl, isFirst⟩⟩
  unfold isExampleOf
  constructor
  · intro holds
    split at holds
    next => cases holds
    next rest opened =>
      obtain ⟨word, gap, quote, rfl, isIt, isGap, isFirst⟩ := opening.mp opened
      obtain ⟨verb, isVerb, verifies⟩ := List.any_eq_true.mp holds
      obtain ⟨read, plural, space, written, after, rfl, folds, isPlural, isSpace, isName, ends⟩ :=
        isVerification_iff.mp verifies
      refine ⟨word ++ (gap ++ quote :: (read ++ (plural ++ (space ++ written)))), after, by simp,
        ?_, ends⟩
      exact ⟨word, gap, quote, verb, read, plural, space, written, rfl, isIt, isGap, isFirst,
        isVerb, folds, isPlural, isSpace, isName⟩
  · rintro ⟨_, after, rfl, ⟨word, gap, quote, verb, read, plural, space, written, rfl, isIt, isGap,
      isFirst, isVerb, folds, isPlural, isSpace, isName⟩, ends⟩
    have whole : word ++ (gap ++ quote :: (read ++ (plural ++ (space ++ written)))) ++ after =
        word ++ (gap ++ quote :: (read ++ (plural ++ (space ++ (written ++ after))))) := by simp
    rw [opening.mpr ⟨word, gap, quote, whole, isIt, isGap, isFirst⟩]
    refine List.any_eq_true.mpr ⟨verb, isVerb, isVerification_iff.mpr ?_⟩
    exact ⟨read, plural, space, written, after, rfl, folds, isPlural, isSpace, isName, ends⟩

theorem afterFocus_append {consumed rest : List Char} (nonempty : consumed ≠ []) :
    afterFocus (consumed ++ rest) = afterFocus consumed ++ rest := by
  obtain ⟨c, more, rfl⟩ := List.exists_cons_of_ne_nil nonempty
  simp only [List.cons_append, afterFocus]
  split <;> rfl

theorem HeaderSpelled.ne_nil {word title consumed : List Char}
    (spelled : HeaderSpelled word title consumed) : consumed ≠ [] := by
  rintro rfl
  obtain ⟨gap, first, last, shape, -⟩ := spelled
  simp [afterFocus] at shape

/-- Nothing but the letter that focuses a header is left out. -/
theorem exists_lead (text : List Char) :
    ∃ lead, text = lead ++ afterFocus text ∧
      ∀ more, more ≠ [] → more.head? = (afterFocus text).head? →
        afterFocus (lead ++ more) = more := by
  cases text with
  | nil => exact ⟨[], rfl, fun more nonempty same => by simp_all [afterFocus]⟩
  | cons c rest =>
    by_cases focused : c = 'f' ∨ c = 'x'
    · refine ⟨[c], by simp [afterFocus, focused], fun more _ _ => ?_⟩
      simp [afterFocus, focused]
    · refine ⟨[], by simp [afterFocus, focused], fun more nonempty same => ?_⟩
      obtain ⟨d, others, rfl⟩ := List.exists_cons_of_ne_nil nonempty
      simp only [afterFocus, focused, if_false, List.head?_cons, Option.some.injEq] at same
      simp [afterFocus, same, focused]

/-- A header phrase stands where its characters do. -/
theorem isHeader_iff_spelled {word title text : List Char} :
    isHeader word title text = true ↔
      ∃ consumed after, text = consumed ++ after ∧ HeaderSpelled word title consumed := by
  rw [isHeader_iff]
  constructor
  · rintro ⟨tail, isWord, gap, first, last, after, rfl, nonempty, blanks, openQuote, closeQuote⟩
    obtain ⟨lead, split, focused⟩ := exists_lead text
    have shape : afterFocus text = (word ++ (gap ++ first :: (title ++ [last]))) ++ after := by
      rw [isWord]
      simp
    have some : word ++ (gap ++ first :: (title ++ [last])) ≠ [] := by simp
    refine ⟨lead ++ (word ++ (gap ++ first :: (title ++ [last]))), after, ?_, gap, first, last, ?_,
      ⟨nonempty, blanks⟩, openQuote, closeQuote⟩
    · rw [List.append_assoc, ← shape]
      exact split
    · refine focused _ some ?_
      rw [shape, List.head?_append_of_ne_nil _ some]
  · rintro ⟨consumed, after, rfl, spelled⟩
    have nonempty := spelled.ne_nil
    obtain ⟨gap, first, last, shape, isGap, openQuote, closeQuote⟩ := spelled
    refine ⟨gap ++ first :: (title ++ last :: after), ?_, gap, first, last, after, rfl, isGap.1,
      isGap.2, openQuote, closeQuote⟩
    rw [afterFocus_append nonempty, shape]
    simp

namespace Phrase

/-- The characters that a phrase for a key reads. -/
def Spelled (phrase : Phrase) (key : HeaderKey) (consumed : List Char) : Prop :=
  match phrase with
  | describeHeader => HeaderSpelled "describe".toList key.chars consumed
  | contextHeader => HeaderSpelled "context".toList key.chars consumed
  | verification => ExampleSpelled key.name consumed
  | bareDescribe => HeaderSpelled "describe".toList key.name consumed

/-- Whether a phrase may end before a text. -/
def EndsBefore (phrase : Phrase) (after : List Char) : Prop :=
  phrase = verification → after.head?.any continuesName = false

/-- A phrase for a key that stands between two parts of a text. -/
structure Reads (phrase : Phrase) (key : HeaderKey) (before consumed after : List Char) : Prop where
  spelled : phrase.Spelled key consumed
  ends : phrase.EndsBefore after
  boundary : isBoundary before.getLast? consumed.head? = true

variable {phrase : Phrase} {key : HeaderKey}

theorem Spelled.ne_nil {consumed : List Char} (spelled : phrase.Spelled key consumed) :
    consumed ≠ [] := by
  cases phrase with
  | verification =>
    obtain ⟨word, gap, quote, verb, read, plural, space, written, rfl, -⟩ := spelled
    simp
  | describeHeader | contextHeader | bareDescribe => exact HeaderSpelled.ne_nil spelled

theorem stands_iff_spelled {text : List Char} :
    phrase.stands key text = true ↔ ∃ consumed after, text = consumed ++ after ∧
      phrase.Spelled key consumed ∧ phrase.EndsBefore after := by
  cases phrase with
  | verification =>
    have ends (after : List Char) :
        EndsBefore verification after ↔ after.head?.any continuesName = false := by
      simp [EndsBefore]
    simp only [ends]
    exact isExampleOf_iff
  | describeHeader | contextHeader | bareDescribe =>
    simp only [EndsBefore, reduceCtorEq, false_implies, and_true]
    exact isHeader_iff_spelled

/-- A phrase is found where it reads its characters at a word boundary. -/
theorem accepts_iff_reads {text : List Char} :
    phrase.accepts key text = true ↔ ∃ before consumed after,
      text = before ++ (consumed ++ after) ∧ phrase.Reads key before consumed after := by
  rw [accepts_iff]
  constructor
  · rintro ⟨before, rest, rfl, stands, boundary⟩
    obtain ⟨consumed, after, rfl, spelled, ends⟩ := stands_iff_spelled.mp stands
    rw [List.head?_append_of_ne_nil _ spelled.ne_nil] at boundary
    exact ⟨before, consumed, after, rfl, spelled, ends, boundary⟩
  · rintro ⟨before, consumed, after, rfl, spelled, ends, boundary⟩
    refine ⟨before, consumed ++ after, rfl,
      stands_iff_spelled.mpr ⟨consumed, after, rfl, spelled, ends⟩, ?_⟩
    rwa [List.head?_append_of_ne_nil _ spelled.ne_nil]

end Phrase

end SpecLint.Spec
