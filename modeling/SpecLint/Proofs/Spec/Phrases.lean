import SpecLint.Spec.Headers
import SpecLint.Spec.Phrase

/-!
# How header phrases read

A header phrase is a word, blanks, and a title between quotes. The words of header calls are these
words with or without the letter that focuses or skips them, so behind the name of a header call a
phrase is found exactly where blanks and the quoted title follow.

## Main results

* `occurs_iff`: a phrase occurs where it stands at a word boundary.
* `isHeader_headerWord_iff`: what stands behind the word of a header call decides.
* `quotes_of_written`: a header whose title follows in some delimiters is found, whatever the key,
  only if these delimiters are quotes and nothing but blanks come before.
-/
namespace SpecLint.Spec

open SpecLint.Text

/-- Blanks, a quote, the title and a quote. -/
def Quotes (title tail : List Char) : Prop :=
  ∃ blanks first last rest, tail = blanks ++ first :: (title ++ last :: rest) ∧ blanks ≠ [] ∧
    (∀ c ∈ blanks, isBlank c = true) ∧ isQuote first = true ∧ isQuote last = true

/-- The title in its delimiters, behind something that may be blank. Only quotes begin with a quote,
and none lies before the delimiters. -/
def Written (title tail : List Char) : Prop :=
  ∃ gap first opening closing rest, tail = gap ++ first :: opening ++ title ++ closing ++ rest ∧
    isBlank first = false ∧
    (isQuote first = true → opening = [] ∧ ∃ last, closing = [last] ∧ isQuote last = true) ∧
    ∀ c ∈ (gap.dropWhile isBlank).head?, isQuote c = false

theorem not_isBlank_of_isQuote {c : Char} (quote : isQuote c = true) : isBlank c = false := by
  simp only [isQuote, Bool.or_eq_true, decide_eq_true_eq] at quote
  rcases quote with rfl | rfl <;> decide

/-! ### The parts of a phrase -/

theorem after?_eq_some_iff {expected text rest : List Char} :
    after? expected text = some rest ↔ text = expected ++ rest := by
  unfold after?
  constructor
  · intro found
    split at found
    next starts =>
      obtain ⟨tail, rfl⟩ := List.isPrefixOf_iff_prefix.mp starts
      rw [List.drop_left, Option.some.injEq] at found
      rw [found]
    next => cases found
  · rintro rfl
    rw [if_pos (List.isPrefixOf_iff_prefix.mpr (List.prefix_append ..)), List.drop_left]

theorem afterQuote?_eq_some_iff {text rest : List Char} :
    afterQuote? text = some rest ↔ ∃ c, text = c :: rest ∧ isQuote c = true := by
  cases text with
  | nil => simp [afterQuote?]
  | cons c tail =>
    simp only [afterQuote?]
    split
    next quote =>
      constructor
      · rintro same
        exact ⟨c, by rw [Option.some.inj same], quote⟩
      · rintro ⟨d, same, _⟩
        rw [(List.cons.inj same).2]
    next other =>
      constructor
      · intro impossible
        cases impossible
      · rintro ⟨d, same, quote⟩
        rw [← (List.cons.inj same).1] at quote
        exact absurd quote other

/-- Up to the first character that is not blank. -/
theorem dropWhile_append_cons {blanks rest : List Char} {c : Char}
    (blank : ∀ d ∈ blanks, isBlank d = true) (other : isBlank c = false) :
    (blanks ++ c :: rest).dropWhile isBlank = c :: rest := by
  rw [List.dropWhile_append_of_pos blank, List.dropWhile_cons_of_neg (by simp [other])]

theorem afterBlanks?_eq_some_cons_iff {text rest : List Char} {c : Char}
    (other : isBlank c = false) :
    afterBlanks? text = some (c :: rest) ↔
      ∃ blanks, text = blanks ++ c :: rest ∧ blanks ≠ [] ∧ ∀ d ∈ blanks, isBlank d = true := by
  constructor
  · intro found
    cases text with
    | nil => simp [afterBlanks?] at found
    | cons d tail =>
      simp only [afterBlanks?] at found
      split at found
      next blank =>
        rw [Option.some.injEq] at found
        -- the blanks are the first character and all that are skipped after it
        have split : tail.takeWhile isBlank ++ tail.dropWhile isBlank = tail :=
          List.takeWhile_append_dropWhile
        rw [found] at split
        refine ⟨d :: tail.takeWhile isBlank, by simp [split], by simp, ?_⟩
        intro e member
        rcases List.mem_cons.mp member with rfl | inTail
        · exact blank
        · exact List.all_eq_true.mp List.all_takeWhile e inTail
      next => cases found
  · rintro ⟨blanks, rfl, nonempty, blank⟩
    obtain ⟨d, more, rfl⟩ := List.exists_cons_of_ne_nil nonempty
    have first := blank d (by simp)
    have others : ∀ e ∈ more, isBlank e = true := fun e member => blank e (by simp [member])
    simp only [List.cons_append, afterBlanks?, first, if_true]
    rw [dropWhile_append_cons others other]

/-! ### Header phrases -/

theorem isHeader_iff {word title text : List Char} :
    isHeader word title text = true ↔
      ∃ tail, afterFocus text = word ++ tail ∧ Quotes title tail := by
  simp only [isHeader, Option.isSome_iff_exists, Option.bind_eq_bind, Option.bind_eq_some_iff,
    after?_eq_some_iff]
  constructor
  · rintro ⟨_, tail, isWord, behind, isBlanks, inside, isFirst, _, rfl, isLast⟩
    obtain ⟨first, rfl, openQuote⟩ := afterQuote?_eq_some_iff.mp isFirst
    obtain ⟨last, rfl, closeQuote⟩ := afterQuote?_eq_some_iff.mp isLast
    obtain ⟨blanks, rfl, nonempty, blank⟩ :=
      (afterBlanks?_eq_some_cons_iff (not_isBlank_of_isQuote openQuote)).mp isBlanks
    exact ⟨_, isWord, blanks, first, last, _, rfl, nonempty, blank, openQuote, closeQuote⟩
  · rintro ⟨tail, isWord, blanks, first, last, rest, rfl, nonempty, blank, openQuote, closeQuote⟩
    refine ⟨rest, _, isWord, first :: (title ++ last :: rest), ?_, _,
      afterQuote?_eq_some_iff.mpr ⟨first, rfl, openQuote⟩, _, rfl,
      afterQuote?_eq_some_iff.mpr ⟨last, rfl, closeQuote⟩⟩
    exact (afterBlanks?_eq_some_cons_iff (not_isBlank_of_isQuote openQuote)).mpr
      ⟨blanks, rfl, nonempty, blank⟩

theorem occurs_iff {phrase : List Char → Bool} {text : List Char} :
    occurs phrase text = true ↔ ∃ front rest, text = front ++ rest ∧ phrase rest = true ∧
      isBoundary front.getLast? rest.head? = true := by
  simp only [occurs, somewhere_iff, Option.or_none, Bool.and_eq_true]

/-- What a phrase for a key looks for. -/
def Phrase.stands (phrase : Phrase) (key : HeaderKey) (text : List Char) : Bool :=
  match phrase with
  | describeHeader => isHeader "describe".toList key.chars text
  | contextHeader => isHeader "context".toList key.chars text
  | verification => isExampleOf key.name text
  | bareDescribe => isHeader "describe".toList key.name text

theorem Phrase.accepts_iff {phrase : Phrase} {key : HeaderKey} {text : List Char} :
    phrase.accepts key text = true ↔ ∃ front rest, text = front ++ rest ∧
      phrase.stands key rest = true ∧ isBoundary front.getLast? rest.head? = true := by
  cases phrase <;> exact occurs_iff

/-! ### The words of header calls -/

/-- The word of a header call without the letter that focuses or skips it. -/
def baseOf (word : String) : List Char := afterFocus word.toList

theorem baseOf_headerWord {word : String} (isWord : word ∈ headerWords) :
    baseOf word = "describe".toList ∨ baseOf word = "context".toList := by
  revert word
  decide

/-- No header word begins like an example. -/
theorem headerWord_eq_cons {word : String} (isWord : word ∈ headerWords) :
    ∃ c rest, word.toList = c :: rest ∧ sameFold 'i' c = false := by
  -- checked for each of the header words
  have begins : (word.toList.head?.any fun c => !sameFold 'i' c) = true := by
    revert word
    decide
  cases chars : word.toList with
  | nil => simp [chars] at begins
  | cons c rest => exact ⟨c, rest, rfl, by simpa [chars] using begins⟩

theorem afterFocus_headerWord {word : String} (isWord : word ∈ headerWords) (tail : List Char) :
    afterFocus (word.toList ++ tail) = baseOf word ++ tail := by
  obtain ⟨c, rest, chars, _⟩ := headerWord_eq_cons isWord
  simp only [baseOf, chars, List.cons_append, afterFocus]
  split <;> rfl

/-- Behind the word of a header call, blanks and the quoted title decide. -/
theorem isHeader_headerWord_iff {word : String} (isWord : word ∈ headerWords)
    {title tail : List Char} :
    isHeader (baseOf word) title (word.toList ++ tail) = true ↔ Quotes title tail := by
  rw [isHeader_iff, afterFocus_headerWord isWord]
  constructor
  · rintro ⟨behind, same, quotes⟩
    rwa [List.append_cancel_left same]
  · intro quotes
    exact ⟨tail, rfl, quotes⟩

/-- A header phrase that stands where the word of a header call does has that word. -/
theorem quotes_of_isHeader {word : String} (isWord : word ∈ headerWords)
    {base title tail : List Char} (isBase : base = "describe".toList ∨ base = "context".toList)
    (header : isHeader base title (word.toList ++ tail) = true) : Quotes title tail := by
  suffices same : base = baseOf word by
    rw [same] at header
    exact (isHeader_headerWord_iff isWord).mp header
  obtain ⟨behind, same, _⟩ := isHeader_iff.mp header
  rw [afterFocus_headerWord isWord] at same
  -- the two words stand at the same place, so they are the same
  rcases isBase with rfl | rfl <;> rcases baseOf_headerWord isWord with other | other <;>
    rw [other] at same ⊢ <;> simp at same

/-- A phrase that stands where the word of a header call does has a quoted title behind it. -/
theorem quotes_of_stands {word : String} (isWord : word ∈ headerWords) {phrase : Phrase}
    {key : HeaderKey} {tail : List Char}
    (stands : phrase.stands key (word.toList ++ tail) = true) :
    ∃ title, Quotes title tail := by
  cases phrase with
  | describeHeader => exact ⟨_, quotes_of_isHeader isWord (.inl rfl) stands⟩
  | contextHeader => exact ⟨_, quotes_of_isHeader isWord (.inr rfl) stands⟩
  | bareDescribe => exact ⟨_, quotes_of_isHeader isWord (.inl rfl) stands⟩
  | verification =>
    -- an example begins with another letter
    obtain ⟨c, rest, chars, differs⟩ := headerWord_eq_cons isWord
    simp [Phrase.stands, isExampleOf, chars, afterFolded?, differs] at stands

/-- Delimiters that let some phrase through are quotes behind blanks. -/
theorem quotes_of_written {title other tail : List Char} (written : Written title tail)
    (quotes : Quotes other tail) : Quotes title tail := by
  obtain ⟨gap, c, opening, closing, rest, rfl, notBlank, delimiters, noQuote⟩ := written
  obtain ⟨blanks, first, last, more, same, nonempty, blank, openQuote, closeQuote⟩ := quotes
  have behind : (blanks ++ first :: (other ++ last :: more)).dropWhile isBlank =
      first :: (other ++ last :: more) :=
    dropWhile_append_cons blank (not_isBlank_of_isQuote openQuote)
  simp only [List.append_assoc, List.cons_append] at same
  rw [← same, List.dropWhile_append] at behind
  -- the first character that is not blank is the quote of the phrase
  cases unblank : gap.dropWhile isBlank with
  | cons d later =>
    rw [unblank] at behind noQuote
    have unquoted := noQuote d rfl
    rw [(List.cons.inj behind).1, openQuote] at unquoted
    cases unquoted
  | nil =>
    rw [unblank, List.isEmpty_nil, if_pos rfl,
      List.dropWhile_cons_of_neg (by simp [notBlank])] at behind
    obtain ⟨rfl, _⟩ := List.cons.inj behind
    -- the title is delimited by quotes, so it follows the blanks at once
    obtain ⟨rfl, final, rfl, finalQuote⟩ := delimiters openQuote
    have whole : gap.takeWhile isBlank ++ gap.dropWhile isBlank = gap :=
      List.takeWhile_append_dropWhile
    rw [unblank, List.append_nil] at whole
    have inGap : ∀ d ∈ gap, isBlank d = true := by
      rw [← whole]
      exact List.all_eq_true.mp List.all_takeWhile
    refine ⟨gap, c, final, rest, by simp, ?_, inGap, openQuote, finalQuote⟩
    rintro rfl
    obtain ⟨d, others, rfl⟩ := List.exists_cons_of_ne_nil nonempty
    rw [(List.cons.inj same).1, blank d (by simp)] at notBlank
    cases notBlank

end SpecLint.Spec
