import SpecLint.Proofs.Spec.PhraseExtent

/-!
# Focused and skipped calls in a text

A letter in front of the name of a call focuses or skips it. In a text this moves what follows and
breaks whatever reads across the beginning of the name. Header phrases allow for the letter, example
phrases do not, and neither does a line that opens with an example.

## Main results

* `Focusing.accepts_focused_iff`: the phrases of a key are found as before, unless one of them
  covers the beginning of the call and is no header that begins there.
* `Focusing.hasExample_focused_iff`: with the letter, the call opens no example line; all others
  are as before.
-/
namespace SpecLint.Spec

open SpecLint.Text

/-- The words of calls that may be focused or skipped. -/
def focusWords : List String := ["describe", "context", "it", "example", "specify", "scenario"]

/-- A text with the name of a call in it, and the letter to put in front of the name. -/
structure Focusing where
  front : List Char
  word : String
  letter : Char
  tail : List Char
  chosen : word ∈ focusWords
  focuses : letter = 'f' ∨ letter = 'x'
  /-- Nothing of the name comes before the word. -/
  opens : front.getLast?.any Text.isWord = false
  /-- Nothing of the name comes after the word. -/
  closes : tail.head?.any Text.isWord = false

variable {edit : Focusing} {name other : List Char}

namespace Focusing

/-- The text with a name for the call. -/
def around (edit : Focusing) (name : List Char) : List Char := edit.front ++ (name ++ edit.tail)

def plain (edit : Focusing) : List Char := edit.around edit.word.toList

def focused (edit : Focusing) : List Char := edit.around (edit.letter :: edit.word.toList)

/-- A name of the call: the word, or the word behind the letter. -/
def Names (edit : Focusing) (name : List Char) : Prop :=
  name = edit.word.toList ∨ name = edit.letter :: edit.word.toList

theorem isWord_of_chosen (edit : Focusing) : ∀ c ∈ edit.word.toList, isWord c = true := by
  have words : ∀ word ∈ focusWords, word.toList.all isWord = true := by decide +kernel
  exact List.all_eq_true.mp (words edit.word edit.chosen)

/-- What holds of the few words and letters there are holds of a focused call. -/
theorem holds_of_all (edit : Focusing) (test : String → Char → Bool)
    (all : (focusWords.all fun word => test word 'f' && test word 'x') = true) :
    test edit.word edit.letter = true := by
  have both := List.all_eq_true.mp all edit.word edit.chosen
  rw [Bool.and_eq_true] at both
  rcases edit.focuses with letter | letter <;> rw [letter]
  · exact both.1
  · exact both.2

theorem isWord_letter (edit : Focusing) : isWord edit.letter = true := by
  rcases edit.focuses with letter | letter <;> rw [letter] <;> decide +kernel

theorem Names.isWord (names : edit.Names name) : ∀ c ∈ name, isWord c = true := by
  rcases names with rfl | rfl
  · exact edit.isWord_of_chosen
  · exact List.forall_mem_cons.mpr ⟨edit.isWord_letter, edit.isWord_of_chosen⟩

theorem Names.ne_nil (names : edit.Names name) : name ≠ [] := by
  have words : ∀ word ∈ focusWords, word.toList ≠ [] := by decide
  rcases names with rfl | rfl
  · exact words edit.word edit.chosen
  · simp

/-- A name that goes on does so with a character of a name. -/
theorem Names.continuesName (names : edit.Names name) :
    ∃ c rest, name = c :: rest ∧ Spec.continuesName c = true := by
  have words : ∀ word ∈ focusWords,
      (word.toList.head?.any Spec.continuesName) = true := by decide +kernel
  rcases names with rfl | rfl
  · have begins := words edit.word edit.chosen
    cases chars : edit.word.toList with
    | nil => simp [chars] at begins
    | cons c rest => exact ⟨c, rest, rfl, by simpa [chars] using begins⟩
  · refine ⟨edit.letter, edit.word.toList, rfl, ?_⟩
    rcases edit.focuses with letter | letter <;> rw [letter] <;> decide +kernel

theorem afterFocus_names (names : edit.Names name) (rest : List Char) :
    afterFocus (name ++ rest) = edit.word.toList ++ rest := by
  have words : ∀ word ∈ focusWords,
      (word.toList.head?.any fun c => c ≠ 'f' ∧ c ≠ 'x') = true := by decide
  rcases names with rfl | rfl
  · have begins := words edit.word edit.chosen
    cases chars : edit.word.toList with
    | nil => simp [chars] at begins
    | cons c more =>
      have plain : c ≠ 'f' ∧ c ≠ 'x' := by simpa [chars] using begins
      simp [afterFocus, plain]
  · have focused : edit.letter = 'f' ∨ edit.letter = 'x' := edit.focuses
    simp [afterFocus, focused]

/-! ### Places in the text -/

/-- A place in the text lies before the call, at it, within its name or behind the name. -/
theorem place_cases {before rest : List Char} (split : edit.around name = before ++ rest) :
    (∃ gap, gap ≠ [] ∧ edit.front = before ++ gap ∧ rest = gap ++ (name ++ edit.tail)) ∨
      (before = edit.front ∧ rest = name ++ edit.tail) ∨
      (∃ first last, first ≠ [] ∧ last ≠ [] ∧ name = first ++ last ∧ before = edit.front ++ first ∧
        rest = last ++ edit.tail) ∨
      ∃ gap, before = edit.front ++ (name ++ gap) ∧ edit.tail = gap ++ rest := by
  rcases List.append_eq_append_iff.mp split with ⟨first, rfl, inside⟩ | ⟨gap, front, rfl⟩
  · by_cases here : first = []
    · subst here
      exact .inr (.inl ⟨by simp, inside.symm⟩)
    · rcases List.append_eq_append_iff.mp inside with ⟨gap, rfl, behind⟩ | ⟨last, named, rfl⟩
      · exact .inr (.inr (.inr ⟨gap, rfl, behind⟩))
      · by_cases whole : last = []
        · subst whole
          rw [List.append_nil] at named
          exact .inr (.inr (.inr ⟨[], by simp [named], by simp⟩))
        · exact .inr (.inr (.inl ⟨first, last, here, whole, named, rfl, rfl⟩))
  · by_cases here : gap = []
    · subst here
      exact .inr (.inl ⟨by simpa using front.symm, rfl⟩)
    · exact .inl ⟨gap, here, front, rfl⟩

theorem isWord_getLast? {part : List Char} (nonempty : part ≠ [])
    (wordy : ∀ c ∈ part, isWord c = true) : part.getLast?.any isWord = true := by
  rw [List.getLast?_eq_some_getLast nonempty]
  exact wordy _ (List.getLast_mem nonempty)

/-- Text before the call does not end like a name. -/
theorem not_isWord_of_front (edit : Focusing) {before gap : List Char}
    (front : edit.front = before ++ gap) (nonempty : gap ≠ []) :
    gap.getLast?.any isWord = false := by
  have opens := edit.opens
  rwa [front, List.getLast?_append_of_ne_nil _ nonempty] at opens

/-- Whether a name ends before a place behind the call is no question of the name. -/
theorem isWord_behind (names : edit.Names name) (others : edit.Names other) (gap : List Char) :
    (edit.front ++ (name ++ gap)).getLast?.elim false isWord =
      (edit.front ++ (other ++ gap)).getLast?.elim false isWord := by
  by_cases nothing : gap = []
  · have ends {name : List Char} (names : edit.Names name) :
        (edit.front ++ (name ++ [])).getLast?.elim false isWord = true := by
      rw [List.append_nil, List.getLast?_append_of_ne_nil _ names.ne_nil,
        List.getLast?_eq_some_getLast names.ne_nil]
      exact names.isWord _ (List.getLast_mem names.ne_nil)
    rw [nothing, ends names, ends others]
  · have last (name : List Char) :
        (edit.front ++ (name ++ gap)).getLast? = gap.getLast? := by
      rw [← List.append_assoc, List.getLast?_append_of_ne_nil _ nothing]
    rw [last, last]

/-! ### Phrases -/

/-- Each phrase for a key, with or without the letter, lies to one side of the beginning of the call
or is a header that begins there. -/
def Spares (edit : Focusing) (key : HeaderKey) : Prop :=
  ∀ name, edit.Names name → ∀ (phrase : Phrase) (before consumed after : List Char),
    edit.around name = before ++ (consumed ++ after) → phrase.Reads key before consumed after →
      edit.front.length < before.length ∨
        before.length + consumed.length ≤ edit.front.length ∨
        before = edit.front ∧ phrase ≠ .verification

/-- A key is spared if none of its phrases begins before the call and no verification at it. -/
theorem spares_of_not_stands {key : HeaderKey}
    (nowhere : ∀ name ∈ [edit.word.toList, edit.letter :: edit.word.toList],
      ∀ phrase ∈ Phrase.all, ∀ skipped < edit.front.length,
        phrase.stands key ((edit.around name).drop skipped) = false)
    (here : ∀ name ∈ [edit.word.toList, edit.letter :: edit.word.toList],
      Phrase.verification.stands key (name ++ edit.tail) = false) : edit.Spares key := by
  intro name names phrase before consumed after split reads
  have isName : name ∈ [edit.word.toList, edit.letter :: edit.word.toList] := by
    simpa [Names] using names
  have stands : phrase.stands key (consumed ++ after) = true :=
    Phrase.stands_iff_spelled.mpr ⟨consumed, after, rfl, reads.spelled, reads.ends⟩
  rcases Nat.lt_trichotomy before.length edit.front.length with earlier | same | later
  · have nothing := nowhere name isName phrase (Phrase.mem_all phrase) before.length earlier
    rw [split, List.drop_left, stands] at nothing
    cases nothing
  · obtain ⟨rfl, rest⟩ := List.append_inj split same.symm
    refine .inr (.inr ⟨rfl, ?_⟩)
    rintro rfl
    have nothing := here name isName
    rw [rest, stands] at nothing
    cases nothing
  · exact .inl later

/-- A header phrase that begins at the call does so under each of its names. -/
theorem stands_names {phrase : Phrase} (isHeader : phrase ≠ .verification) {key : HeaderKey}
    (names : edit.Names name) (others : edit.Names other) :
    phrase.stands key (name ++ edit.tail) = phrase.stands key (other ++ edit.tail) := by
  have same (word title : List Char) : Spec.isHeader word title (name ++ edit.tail) =
      Spec.isHeader word title (other ++ edit.tail) := by
    rw [Bool.eq_iff_iff, isHeader_iff, isHeader_iff, afterFocus_names names,
      afterFocus_names others]
  cases phrase with
  | verification => exact absurd rfl isHeader
  | describeHeader | contextHeader | bareDescribe => exact same ..

/-- A phrase that is over before the call begins does not depend on the name. -/
theorem reads_before {phrase : Phrase} {key : HeaderKey} {before consumed gap : List Char}
    (names : edit.Names name)
    (reads : phrase.Reads key before consumed (gap ++ (name ++ edit.tail))) (rest : List Char) :
    phrase.Reads key before consumed (gap ++ rest) := by
  refine ⟨reads.spelled, fun isExample => ?_, reads.boundary⟩
  have ends := reads.ends isExample
  cases gap with
  | cons c gap => exact ends
  | nil =>
    -- the name of the call would go on with the name in the phrase
    obtain ⟨c, more, rfl, continues⟩ := names.continuesName
    simp [continues] at ends

theorem isBoundary_names (names : edit.Names name) (others : edit.Names other)
    (before : Option Char) (rest : List Char) :
    isBoundary before (name ++ rest).head? = isBoundary before (other ++ rest).head? := by
  have first {name : List Char} (names : edit.Names name) :
      (name ++ rest).head?.elim false isWord = true := by
    obtain ⟨c, more, rfl⟩ := List.exists_cons_of_ne_nil names.ne_nil
    exact names.isWord c (by simp)
  rw [isBoundary, isBoundary, first names, first others]

/-- No phrase begins within a name. -/
theorem not_isBoundary_within (names : edit.Names name) {front first last rest : List Char}
    (split : name = first ++ last) (some : first ≠ []) (more : last ≠ []) :
    isBoundary (front ++ first).getLast? (last ++ rest).head? = false := by
  have wordy := names.isWord
  rw [split] at wordy
  have before : (front ++ first).getLast?.elim false isWord = true := by
    rw [List.getLast?_append_of_ne_nil _ some, List.getLast?_eq_some_getLast some]
    exact wordy _ (by simp)
  obtain ⟨c, later, rfl⟩ := List.exists_cons_of_ne_nil more
  have after : (c :: later ++ rest).head?.elim false isWord = true := wordy c (by simp)
  rw [isBoundary, before, after]
  rfl

/-- A phrase that is found under one name of the call is found under the other. -/
theorem accepts_of_names {phrase : Phrase} {key : HeaderKey} (spares : edit.Spares key)
    (names : edit.Names name) (others : edit.Names other)
    (accepted : phrase.accepts key (edit.around name) = true) :
    phrase.accepts key (edit.around other) = true := by
  obtain ⟨before, consumed, after, whole, reads⟩ := Phrase.accepts_iff_reads.mp accepted
  have nonempty := List.length_pos_of_ne_nil reads.spelled.ne_nil
  have apart := spares name names phrase before consumed after whole reads
  rcases place_cases whole with ⟨gap, some, front, rest⟩ | ⟨rfl, rest⟩ |
    ⟨first, last, some, more, named, rfl, rest⟩ | ⟨gap, rfl, tail⟩
  · have size := congrArg List.length front
    rw [List.length_append] at size
    have gapSize := List.length_pos_of_ne_nil some
    have fits : consumed.length ≤ gap.length := by
      rcases apart with behind | within | ⟨here, -⟩
      · omega
      · omega
      · rw [here] at size
        omega
    -- the phrase is over before the call begins, so it is found in what comes before
    obtain ⟨more, rfl⟩ : consumed <+: gap := by
      refine List.prefix_of_prefix_length_le ?_ (List.prefix_append gap (name ++ edit.tail)) fits
      exact ⟨after, rest⟩
    rw [List.append_assoc, List.append_cancel_left_eq] at rest
    rw [rest] at reads
    exact Phrase.accepts_iff_reads.mpr ⟨before, consumed, more ++ (other ++ edit.tail),
      by rw [around, front]; simp, reads_before names reads _⟩
  · -- a header that begins at the call allows for the letter
    have isHeader : phrase ≠ .verification := by
      rcases apart with behind | within | ⟨-, isHeader⟩
      · omega
      · omega
      · exact isHeader
    refine Phrase.accepts_iff.mpr ⟨edit.front, other ++ edit.tail, rfl, ?_, ?_⟩
    · rw [← stands_names isHeader names others, ← rest]
      exact Phrase.stands_iff_spelled.mpr ⟨consumed, after, rfl, reads.spelled, reads.ends⟩
    · rw [← isBoundary_names names others, ← rest,
        List.head?_append_of_ne_nil _ reads.spelled.ne_nil]
      exact reads.boundary
  · have boundary := reads.boundary
    have head : (consumed ++ after).head? = consumed.head? :=
      List.head?_append_of_ne_nil _ reads.spelled.ne_nil
    rw [← head, rest, not_isBoundary_within names named some more] at boundary
    cases boundary
  · refine Phrase.accepts_iff_reads.mpr ⟨edit.front ++ (other ++ gap), consumed, after,
      by rw [around, tail]; simp, reads.spelled, reads.ends, ?_⟩
    have boundary := reads.boundary
    rwa [isBoundary, isWord_behind names others] at boundary

theorem names_plain (edit : Focusing) : edit.Names edit.word.toList := .inl rfl

theorem names_focused (edit : Focusing) : edit.Names (edit.letter :: edit.word.toList) := .inr rfl

/-- The letter makes no difference to the phrases for a key that the call spares. -/
theorem accepts_focused_iff {phrase : Phrase} {key : HeaderKey} (spares : edit.Spares key) :
    phrase.accepts key edit.focused = phrase.accepts key edit.plain := by
  rw [Bool.eq_iff_iff]
  exact ⟨accepts_of_names spares edit.names_focused edit.names_plain,
    accepts_of_names spares edit.names_plain edit.names_focused⟩

theorem first?_focused {key : HeaderKey} (spares : edit.Spares key) :
    Phrase.first? key edit.focused = Phrase.first? key edit.plain := by
  unfold Phrase.first?
  congr 1
  funext phrase
  exact accepts_focused_iff spares

end Focusing

/-! ### Example lines -/

/-- Nothing but blanks lies between the end of a text and the beginning of a line. -/
def OpensLine (before : List Char) : Prop :=
  ∃ above blanks, before = above ++ blanks ∧ (above = [] ∨ above.getLast? = some '\n') ∧
    ∀ c ∈ blanks, isBlank c = true

/-- A line of a text that opens with an example, between the text before and the example. -/
structure ExampleLine (before rest : List Char) : Prop where
  opens : OpensLine before
  starts : startsExample rest = true

theorem startsExample_iff {text : List Char} :
    startsExample text = true ↔ ∃ word ∈ exampleWords, ∃ rest, text = word ++ rest ∧
      rest.head?.any isWord = false := by
  rw [startsExample, List.any_eq_true]
  refine exists_congr fun word => and_congr_right fun _ => ?_
  constructor
  · intro starts
    cases found : after? word text with
    | none => simp [found] at starts
    | some rest => exact ⟨rest, after?_eq_some_iff.mp found, by simpa [found] using starts⟩
  · rintro ⟨rest, rfl, ends⟩
    rw [after?_eq_some_iff.mpr rfl]
    simpa using ends

theorem exampleWord_eq_cons {word : List Char} (isExample : word ∈ exampleWords) :
    ∃ c rest, word = c :: rest ∧ isBlank c = false ∧ c ≠ 'f' ∧ c ≠ 'x' := by
  have begins : (word.head?.any fun c => !isBlank c && decide (c ≠ 'f' ∧ c ≠ 'x')) = true := by
    revert word
    decide +kernel
  cases word with
  | nil => simp at begins
  | cons c rest => exact ⟨c, rest, rfl, by simpa using begins⟩

theorem isWord_of_exampleWord {word : List Char} (isExample : word ∈ exampleWords) :
    word ≠ [] ∧ ∀ c ∈ word, isWord c = true := by
  have words : ∀ word ∈ exampleWords, word ≠ [] ∧ word.all isWord = true := by decide +kernel
  exact ⟨(words word isExample).1, List.all_eq_true.mp (words word isExample).2⟩

theorem hasExample_iff {text : List Char} :
    hasExample text = true ↔ ∃ before rest, text = before ++ rest ∧ ExampleLine before rest := by
  simp only [hasExample, somewhere_iff, Option.or_none, Bool.and_eq_true, Bool.or_eq_true,
    Option.isNone_iff_eq_none, List.getLast?_eq_none_iff, beq_iff_eq]
  constructor
  · rintro ⟨above, rest, rfl, line, starts⟩
    refine ⟨above ++ rest.takeWhile isBlank, rest.dropWhile isBlank, by simp,
      ⟨above, rest.takeWhile isBlank, rfl, line, ?_⟩, starts⟩
    exact List.all_eq_true.mp List.all_takeWhile
  · rintro ⟨_, rest, rfl, ⟨above, blanks, rfl, line, allBlank⟩, starts⟩
    refine ⟨above, blanks ++ rest, by simp, line, ?_⟩
    obtain ⟨word, isExample, after, rfl, ends⟩ := startsExample_iff.mp starts
    obtain ⟨c, more, rfl, notBlank, -⟩ := exampleWord_eq_cons isExample
    rwa [List.cons_append, dropWhile_append_cons allBlank notBlank, ← List.cons_append]

/-- What opens a line does not go on a name. -/
theorem OpensLine.not_isWord {before : List Char} (opens : OpensLine before) :
    before.getLast?.any isWord = false := by
  obtain ⟨above, blanks, rfl, line, allBlank⟩ := opens
  by_cases nothing : blanks = []
  · subst nothing
    have lineFeed : isWord '\n' = false := by decide
    rcases line with rfl | last
    · rfl
    · rw [List.append_nil, last]
      exact lineFeed
  · rw [List.getLast?_append_of_ne_nil _ nothing, List.getLast?_eq_some_getLast nothing]
    exact isWord_of_isBlank (allBlank _ (List.getLast_mem nothing))

/-- A line that begins behind a name begins in what comes after it. -/
theorem opensLine_append_iff {part gap : List Char} (named : part.getLast?.any isWord = true) :
    OpensLine (part ++ gap) ↔ ∃ above blanks, gap = above ++ blanks ∧
      above.getLast? = some '\n' ∧ ∀ c ∈ blanks, isBlank c = true := by
  have some : part ≠ [] := by
    rintro rfl
    cases named
  have lineFeed : isWord '\n' = false := by decide
  constructor
  · rintro ⟨above, blanks, split, line, allBlank⟩
    have last : above ≠ [] → above.getLast? = Option.some '\n' := fun nonempty =>
      line.resolve_left nonempty
    rcases List.append_eq_append_iff.mp split with ⟨more, rfl, rfl⟩ | ⟨begun, rfl, rfl⟩
    · have ends := last (by simp [some])
      by_cases nothing : more = []
      · subst nothing
        rw [List.append_nil] at ends
        simp [ends, lineFeed] at named
      · rw [List.getLast?_append_of_ne_nil _ nothing] at ends
        exact ⟨more, blanks, rfl, ends, allBlank⟩
    · -- the blanks do not reach into the name
      by_cases nothing : begun = []
      · subst nothing
        rw [List.append_nil] at named some
        simp [last some, lineFeed] at named
      · rw [List.getLast?_append_of_ne_nil _ nothing, List.getLast?_eq_some_getLast nothing,
          Option.any_some] at named
        rw [isWord_of_isBlank (allBlank _ (by simp))] at named
        cases named
  · rintro ⟨above, blanks, rfl, ends, allBlank⟩
    refine ⟨part ++ above, blanks, by simp, .inr ?_, allBlank⟩
    rw [List.getLast?_append_of_ne_nil _ (by rintro rfl; cases ends), ends]

/-- Whether an example begins in some text is settled where a name cannot go on. -/
theorem startsExample_append {gap rest : List Char} (nonempty : gap ≠ [])
    (ends : gap.getLast?.any isWord = false) (starts : startsExample (gap ++ rest) = true)
    (more : List Char) : startsExample (gap ++ more) = true := by
  obtain ⟨word, isExample, after, split, ended⟩ := startsExample_iff.mp starts
  obtain ⟨some, wordy⟩ := isWord_of_exampleWord isExample
  have notName {part : List Char} (isPart : part <:+: word) (same : part = gap) : False := by
    rw [← same, List.getLast?_eq_some_getLast (same ▸ nonempty), Option.any_some,
      wordy _ (isPart.subset (List.getLast_mem _))] at ends
    cases ends
  -- the word is over before the text ends, as the text does not end within a name
  rcases List.append_eq_append_iff.mp split with ⟨_, rfl, -⟩ | ⟨later, rfl, rfl⟩
  · exact (notName (List.prefix_append ..).isInfix rfl).elim
  · refine startsExample_iff.mpr ⟨word, isExample, later ++ more, by simp, ?_⟩
    by_cases nothing : later = []
    · exact (notName (List.infix_refl word) (by simp [nothing])).elim
    · rw [List.head?_append_of_ne_nil _ nothing] at ended ⊢
      exact ended

namespace Focusing

theorem isWord_getLast?_names (names : edit.Names name) :
    (edit.front ++ name).getLast?.any isWord = true := by
  rw [List.getLast?_append_of_ne_nil _ names.ne_nil]
  exact isWord_getLast? names.ne_nil names.isWord

/-- An example line apart from the call is one under each of its names. -/
theorem exampleLine_of_names (names : edit.Names name) (others : edit.Names other)
    {before rest : List Char} (split : edit.around name = before ++ rest)
    (line : ExampleLine before rest) (elsewhere : before ≠ edit.front) :
    ∃ before' rest', edit.around other = before' ++ rest' ∧ ExampleLine before' rest' ∧
      before' ≠ edit.front := by
  rcases place_cases split with ⟨gap, nonempty, front, rfl⟩ | ⟨here, -⟩ |
    ⟨first, last, some, -, named, rfl, -⟩ | ⟨gap, rfl, tail⟩
  · refine ⟨before, gap ++ (other ++ edit.tail), by rw [around, front]; simp, ⟨line.opens, ?_⟩,
      elsewhere⟩
    exact startsExample_append nonempty (edit.not_isWord_of_front front nonempty) line.starts _
  · exact absurd here elsewhere
  · -- no line opens within a name
    have opens := line.opens.not_isWord
    have wordy : ∀ c ∈ first, isWord c = true :=
      fun c member => names.isWord c (by simp [named, member])
    rw [List.getLast?_append_of_ne_nil _ some, isWord_getLast? some wordy] at opens
    cases opens
  · refine ⟨edit.front ++ (other ++ gap), rest, by rw [around, tail]; simp, ⟨?_, line.starts⟩, ?_⟩
    · have opens := line.opens
      rw [← List.append_assoc, opensLine_append_iff (isWord_getLast?_names names)] at opens
      rw [← List.append_assoc, opensLine_append_iff (isWord_getLast?_names others)]
      exact opens
    · simp [others.ne_nil]

/-- No example begins with the letter. -/
theorem not_startsExample_focused (edit : Focusing) (rest : List Char) :
    startsExample (edit.letter :: rest) = false := by
  rw [Bool.eq_false_iff]
  intro starts
  obtain ⟨word, isExample, after, split, -⟩ := startsExample_iff.mp starts
  obtain ⟨c, more, rfl, -, notF, notX⟩ := exampleWord_eq_cons isExample
  obtain ⟨same, -⟩ := List.cons.inj split
  rcases edit.focuses with letter | letter
  · exact notF (same.symm.trans letter)
  · exact notX (same.symm.trans letter)

/-- With the letter there is an example line if there is one without it apart from the call. -/
theorem hasExample_focused_iff (edit : Focusing) :
    hasExample edit.focused = true ↔ ∃ before rest, edit.plain = before ++ rest ∧
      ExampleLine before rest ∧ before ≠ edit.front := by
  rw [hasExample_iff]
  constructor
  · rintro ⟨before, rest, split, line⟩
    refine exampleLine_of_names edit.names_focused edit.names_plain split line ?_
    -- the call itself opens no example line once it has the letter
    rintro rfl
    have starts := line.starts
    rw [← List.append_cancel_left split, List.cons_append, edit.not_startsExample_focused] at starts
    cases starts
  · rintro ⟨before, rest, split, line, elsewhere⟩
    obtain ⟨before', rest', split', line', -⟩ :=
      exampleLine_of_names edit.names_plain edit.names_focused split line elsewhere
    exact ⟨before', rest', split', line'⟩

/-- The call is not the only one that opens an example line. -/
def LeavesExample (edit : Focusing) : Prop :=
  ExampleLine edit.front (edit.word.toList ++ edit.tail) → ∃ before rest,
    edit.plain = before ++ rest ∧ ExampleLine before rest ∧ before ≠ edit.front

theorem hasExample_focused (leaves : edit.LeavesExample) :
    hasExample edit.focused = hasExample edit.plain := by
  rw [Bool.eq_iff_iff, hasExample_focused_iff, hasExample_iff]
  constructor
  · rintro ⟨before, rest, split, line, -⟩
    exact ⟨before, rest, split, line⟩
  · rintro ⟨before, rest, split, line⟩
    by_cases here : before = edit.front
    · subst here
      rw [← List.append_cancel_left split] at line
      exact leaves line
    · exact ⟨before, rest, split, line, here⟩

end Focusing

end SpecLint.Spec
