import SpecLint.Proofs.Spec.MoreLines
import SpecLint.Proofs.Spec.PhraseLanguage

/-!
# Headers that are suggested

For a routine that no spec documents, messages suggest headers: the name under both sigils, and the
aliases. A line with such a header documents the key that is written in it, wherever the line is put
in. The routine is documented by it if that key is its own or an alias. The name under the other
sigil is the key of another routine, so that header helps only where an alias reads like it.

## Main result

`helps_of_expected`: what each of the expected headers does for the routine.
-/
namespace SpecLint.Spec

open SpecLint.Text

/-- The header that messages suggest for a key. -/
def suggestedHeader (key : HeaderKey) : String := "describe '" ++ key.toString ++ "'"

/-- A word, a title between quotes, and the word that opens a block. -/
def openingLine (word title block : List Char) : List Char :=
  word ++ ' ' :: '\'' :: (title ++ '\'' :: ' ' :: block)

/-- A text without blanks and quotes. -/
def IsUnquoted (text : List Char) : Prop := ∀ c ∈ text, isBlank c = false ∧ isQuote c = false

/-- A text with one more line somewhere among its lines. -/
def LineInserted (line text more : List Char) : Prop :=
  ∃ above below : List (List Char), text = ['\n'].intercalate (above ++ below) ∧
    more = ['\n'].intercalate (above ++ line :: below)

/-- A line put into one of its spec files makes a routine covered that was not. -/
def Helps (key : HeaderKey) (table : AliasTable) (line : List Char) : Prop :=
  ∀ (project changed : Project) (paths : List Path) (path : Path) (cache later : Cache),
    path ∈ paths → (covers project paths key table cache).1 = false →
    LineInserted line (cache.seenText project path).toList (later.seenText changed path).toList →
    (∀ other ∈ paths, other ≠ path →
      later.seenText changed other = cache.seenText project other) →
    (covers changed paths key table later).1 = true

/-! ### The expected headers -/

theorem toList_suggestedHeader (key : HeaderKey) :
    (suggestedHeader key ++ " do").toList =
      openingLine "describe".toList key.chars "do".toList := by
  have pieces (opening title quote block : String) : (opening ++ title ++ quote ++ block).toList =
      opening.toList ++ (title.toList ++ (quote.toList ++ block.toList)) := by
    simp only [String.toList_append, List.append_assoc]
  have opening : "describe '".toList = "describe".toList ++ [' ', '\''] := by decide
  have title : key.toString.toList = key.chars := String.toList_ofList
  have closing : "'".toList ++ " do".toList = '\'' :: ' ' :: "do".toList := by decide
  calc (suggestedHeader key ++ " do").toList
      = "describe '".toList ++ (key.toString.toList ++ ("'".toList ++ " do".toList)) :=
        pieces _ _ _ _
    _ = ("describe".toList ++ [' ', '\'']) ++ (key.chars ++ '\'' :: ' ' :: "do".toList) :=
        congrArg₂ (· ++ ·) opening (congrArg₂ (· ++ ·) title closing)
    _ = openingLine "describe".toList key.chars "do".toList := List.append_assoc _ _ _

theorem mem_foldl_distinct {items seen : List String} {header : String} :
    header ∈ items.foldl (fun seen item => if seen.contains item then seen else seen ++ [item])
        seen ↔
      header ∈ seen ∨ header ∈ items := by
  induction items generalizing seen with
  | nil => simp
  | cons item items ih =>
    rw [List.foldl_cons, ih, List.mem_cons]
    split
    next known =>
      have listed : item ∈ seen := List.contains_iff_mem.mp known
      constructor
      · rintro (before | later)
        · exact .inl before
        · exact .inr (.inr later)
      · rintro (before | rfl | later)
        · exact .inl before
        · exact .inl listed
        · exact .inr later
    next =>
      rw [List.mem_append, List.mem_singleton, or_assoc]

/-- Both sigils are suggested, so the key and its opposite, and all aliases. -/
theorem mem_expectedHeaders_iff {key : HeaderKey} {table : AliasTable} {header : String} :
    header ∈ (expectedHeaders key table).1 ↔
      ∃ own ∈ key :: key.opposite :: table.aliases key.toString, header = suggestedHeader own := by
  have bothSigils (own : HeaderKey) : own ∈ [⟨.ofInstance, key.name⟩, ⟨.ofType, key.name⟩] ↔
      own = key ∨ own = key.opposite := by
    obtain ⟨scope, name⟩ := key
    cases scope
    · simp [HeaderKey.opposite, Scope.opposite]
    · simp [HeaderKey.opposite, Scope.opposite, or_comm]
  simp only [expectedHeaders, AliasTable.forKey, mem_foldl_distinct, List.not_mem_nil, false_or,
    List.mem_map, List.mem_append, bothSigils, List.mem_cons (a := _) (b := key), or_assoc]
  simp only [List.mem_cons, suggestedHeader, eq_comm (b := header)]

/-! ### One more line -/

theorem LineInserted.linesAdded {line text more : List Char}
    (inserted : LineInserted line text more) : LinesAdded line more := by
  obtain ⟨above, below, -, rfl⟩ := inserted
  induction above with
  | nil =>
    cases below with
    | nil => exact ⟨[], [], by simp, .inl rfl, .inl rfl⟩
    | cons next below =>
      refine ⟨[], '\n' :: ['\n'].intercalate (next :: below), ?_, .inl rfl, .inr ⟨_, rfl⟩⟩
      rw [List.nil_append, List.intercalate_cons_of_ne_nil (List.cons_ne_nil _ _)]
      simp
  | cons first above ih =>
    obtain ⟨lead, trail, rest, before, behind⟩ := ih
    refine ⟨first ++ '\n' :: lead, trail, ?_, .inr ?_, behind⟩
    · rw [List.cons_append, List.intercalate_cons_of_ne_nil (by simp), rest]
      simp
    · rcases before with rfl | ⟨lines, rfl⟩
      · exact ⟨first, rfl⟩
      · exact ⟨first ++ '\n' :: lines, by simp⟩

/-- A cache that knows the text of one file. -/
def remembering (path : Path) (text : String) : Cache := ⟨[], [(path, text)], [], []⟩

theorem seenText_remembering (project : Project) (path : Path) (text : String) :
    (remembering path text).seenText project path = text := by
  simp [Cache.seenText, Cache.text, remembering]

/-- No phrase stands in the empty text. -/
theorem not_accepts_nil (phrase : Phrase) (own : HeaderKey) : phrase.accepts own [] ≠ true := by
  intro accepted
  obtain ⟨before, written, after, same, -, spelled, -⟩ := Phrase.accepts_iff_within.mp accepted
  have nothing : written = [] := by
    have parts := same.symm
    simp only [List.append_eq_nil_iff] at parts
    exact parts.2.1
  exact spelled.ne_nil nothing

/-- The lines that help are those in which a phrase of the routine stands. -/
theorem helps_iff_accepts {key : HeaderKey} {table : AliasTable} {line : List Char} :
    Helps key table line ↔
      ∃ own ∈ key :: table.aliases key.toString, ∃ phrase : Phrase,
        phrase.accepts own line = true := by
  constructor
  · intro helps
    -- an empty file gets the line, so nothing else can make the routine covered
    have before : (covers (oneSpec "") [runSpecPath] key table (remembering runSpecPath "")).1 =
        false := by
      rw [Bool.eq_false_iff]
      intro covered
      obtain ⟨own, -, path, listed, phrase, accepted⟩ := covers_iff_accepts.mp covered
      rw [List.mem_singleton.mp listed, seenText_remembering] at accepted
      exact not_accepts_nil phrase own accepted
    have inserted : LineInserted line
        ((remembering runSpecPath "").seenText (oneSpec "") runSpecPath).toList
        ((remembering runSpecPath (String.ofList line)).seenText (oneSpec "")
          runSpecPath).toList := by
      refine ⟨[], [], ?_, ?_⟩
      · rw [seenText_remembering]
        rfl
      · rw [seenText_remembering, String.toList_ofList]
        exact (List.intercalate_singleton).symm
    have others : ∀ other ∈ [runSpecPath], other ≠ runSpecPath →
        (remembering runSpecPath (String.ofList line)).seenText (oneSpec "") other =
          (remembering runSpecPath "").seenText (oneSpec "") other := by
      intro other listed apart
      exact absurd (List.mem_singleton.mp listed) apart
    have covered := helps _ _ _ _ _ _ List.mem_cons_self before inserted others
    obtain ⟨own, isOwn, path, listed, phrase, accepted⟩ := covers_iff_accepts.mp covered
    rw [List.mem_singleton.mp listed, seenText_remembering, String.toList_ofList] at accepted
    exact ⟨own, isOwn, phrase, accepted⟩
  · rintro ⟨own, isOwn, phrase, accepted⟩ project changed paths path cache later listed - inserted -
    have stands := Phrase.accepts_of_linesAdded inserted.linesAdded accepted
    exact covers_iff_accepts.mpr ⟨own, isOwn, path, listed, phrase, stands⟩

/-! ### The header in the line -/

theorem within_openingLine (word title block : List Char) :
    Within (openingLine word title block) fun written _ => HeaderText word title written := by
  refine ⟨[], word ++ ([' '] ++ '\'' :: (title ++ ['\''])), ' ' :: block, ?_, ?_, ?_⟩
  · simp only [openingLine, List.nil_append, List.append_assoc, List.cons_append]
  · intro c member
    cases member
  · refine ⟨[], [' '], '\'', '\'', rfl, List.mem_cons_self, ⟨List.cons_ne_nil _ _, ?_⟩, ?_, ?_⟩
    · intro c member
      rw [List.mem_singleton.mp member]
      decide
    · decide
    · decide

theorem accepts_openingLine {own : HeaderKey} {title : List Char}
    (reads : own.chars = title ∨ own.name = title) :
    ∃ phrase : Phrase,
      phrase.accepts own (openingLine "describe".toList title "do".toList) = true := by
  obtain ⟨header, -, -, bare, -⟩ :=
    Phrase.first?_language own (openingLine "describe".toList title "do".toList)
  rcases reads with rfl | rfl
  · exact ⟨.describeHeader, header.mpr (within_openingLine _ _ _)⟩
  · exact ⟨.bareDescribe, bare.mpr (within_openingLine _ _ _)⟩

/-- Where a character that passes a test comes after a word in which none does. -/
theorem eq_of_split_at {test : Char → Bool} {word rest front tail : List Char} {c d : Char}
    (clean : ∀ e ∈ word, test e = false) (marked : test d = true)
    (same : word ++ c :: rest = front ++ d :: tail) :
    (front = word ∧ d = c ∧ tail = rest) ∨
      ∃ between, front = word ++ c :: between ∧ rest = between ++ d :: tail := by
  rcases List.append_eq_append_iff.mp same with ⟨more, rfl, shape⟩ | ⟨more, rfl, shape⟩
  · rcases List.cons_eq_append_iff.mp shape with ⟨rfl, found⟩ | ⟨between, rfl, rfl⟩
    · obtain ⟨rfl, rfl⟩ := List.cons.inj found
      exact .inl ⟨by simp, rfl, rfl⟩
    · exact .inr ⟨between, rfl, rfl⟩
  · rcases List.cons_eq_append_iff.mp shape with ⟨rfl, found⟩ | ⟨between, rfl, -⟩
    · obtain ⟨rfl, rfl⟩ := List.cons.inj found
      exact .inl ⟨by simp, rfl, rfl⟩
    · -- the word has no such character
      have inWord := clean d (by simp)
      rw [marked] at inWord
      cases inWord

theorem isUnquoted_of_all {text : List Char}
    (all : (text.all fun c => !isBlank c && !isQuote c) = true) : IsUnquoted text := by
  intro c member
  have here := List.all_eq_true.mp all c member
  rwa [Bool.and_eq_true, Bool.not_eq_true', Bool.not_eq_true'] at here

namespace IsUnquoted

variable {text : List Char} {c : Char}

theorem not_mem_of_isBlank (plain : IsUnquoted text) (blank : isBlank c = true) : c ∉ text := by
  intro member
  rw [(plain c member).1] at blank
  cases blank

theorem not_mem_of_isQuote (plain : IsUnquoted text) (quote : isQuote c = true) : c ∉ text := by
  intro member
  rw [(plain c member).2] at quote
  cases quote

end IsUnquoted

variable {word title block : List Char}

/-- In the line, blanks before a quote stand behind the word only. -/
theorem openingLine_gap {front gap tail : List Char} {quote : Char} (plainWord : IsUnquoted word)
    (plainTitle : IsUnquoted title) (plainBlock : IsUnquoted block) (isGap : IsGap gap)
    (isFirst : isQuote quote = true)
    (same : openingLine word title block = front ++ (gap ++ quote :: tail)) :
    front = word ∧ tail = title ++ '\'' :: ' ' :: block := by
  have quoted : ∀ c ∈ '\'' :: (title ++ ['\'']), isBlank c = false := by
    intro c member
    simp only [List.mem_cons, List.mem_append, List.not_mem_nil, or_false] at member
    rcases member with rfl | inTitle | rfl
    · decide
    · exact (plainTitle c inTitle).1
    · decide
  obtain ⟨blanks, last, rfl⟩ := (List.eq_nil_or_concat gap).resolve_left isGap.1
  have lastBlank : isBlank last = true := isGap.2 last (by simp)
  have shape : word ++ ' ' :: '\'' :: (title ++ '\'' :: ' ' :: block) =
      (front ++ blanks) ++ last :: quote :: tail := by
    rw [← openingLine, same]
    simp only [List.append_assoc, List.concat_eq_append, List.singleton_append]
  rcases eq_of_split_at (fun c member => (plainWord c member).1) lastBlank shape with
    ⟨inWord, -, behind⟩ | ⟨between, -, behind⟩
  · -- nothing in the word is blank
    have none : blanks = [] := by
      refine List.eq_nil_iff_forall_not_mem.mpr fun c member => ?_
      have blank : isBlank c = true := isGap.2 c (by simp [member])
      exact plainWord.not_mem_of_isBlank blank (by simp [← inWord, member])
    rw [none, List.append_nil] at inWord
    exact ⟨inWord, (List.cons.inj behind).2⟩
  · -- behind the opening quote the only blank is the one before the block
    have later : ('\'' :: (title ++ ['\''])) ++ ' ' :: block =
        between ++ last :: quote :: tail := by
      rw [← behind]
      simp
    rcases eq_of_split_at quoted lastBlank later with ⟨-, -, inBlock⟩ | ⟨more, -, inBlock⟩
    · exact absurd (by simp [← inBlock]) (plainBlock.not_mem_of_isQuote isFirst)
    · exact absurd (by simp [inBlock]) (plainBlock.not_mem_of_isBlank lastBlank)

/-- The only title in the line is the one it was made with. -/
theorem title_of_within_openingLine {own name : List Char} (plainWord : IsUnquoted word)
    (plainTitle : IsUnquoted title) (plainBlock : IsUnquoted block)
    (stands : Within (openingLine word title block) fun written _ => HeaderText own name written) :
    own <:+ word ∧ name = title := by
  obtain ⟨before, _, after, same, -, focus, gap, first, last, rfl, -, isGap, isFirst, isLast⟩ :=
    stands
  have shape : openingLine word title block =
      (before ++ (focus ++ own)) ++ (gap ++ first :: (name ++ last :: after)) := by
    simp only [same, List.append_assoc, List.cons_append, List.nil_append]
  obtain ⟨inWord, inside⟩ := openingLine_gap plainWord plainTitle plainBlock isGap isFirst shape
  refine ⟨⟨before ++ focus, by rw [List.append_assoc, inWord]⟩, ?_⟩
  rcases eq_of_split_at (fun c member => (plainTitle c member).2) isLast inside.symm with
    ⟨found, -⟩ | ⟨between, -, behind⟩
  · exact found
  · -- no quote stands behind the closing one
    have member : last ∈ ' ' :: block := by simp [behind]
    rcases List.mem_cons.mp member with rfl | inBlock
    · cases isLast
    · exact absurd inBlock (plainBlock.not_mem_of_isQuote isLast)

/-- The word of the line does not end like the word of an example. -/
theorem not_suffix_of_folds {it : List Char} (isIt : Folds ['i', 't'] it) :
    ¬it <:+ "describe".toList := by
  rintro ⟨before, ends⟩
  obtain ⟨c, rest, same, others, rfl⟩ := List.forall₂_cons_left_iff.mp isIt
  obtain ⟨d, none, -, isNone, rfl⟩ := List.forall₂_cons_left_iff.mp others
  rw [List.forall₂_nil_left_iff.mp isNone] at ends
  have split : "describe".toList = "descri".toList ++ ['b', 'e'] := by decide
  have last := (List.append_inj' (ends.trans split) rfl).2
  rw [(List.cons.inj last).1] at same
  exact absurd same (by decide)

/-- A phrase of a key stands in the line exactly if the title reads like the key or like its bare
name. -/
theorem accepts_openingLine_iff {own : HeaderKey} (plain : IsUnquoted title) :
    (∃ phrase : Phrase,
        phrase.accepts own (openingLine "describe".toList title "do".toList) = true) ↔
      own.chars = title ∨ own.name = title := by
  have plainWord : IsUnquoted "describe".toList := isUnquoted_of_all (by decide)
  have plainBlock : IsUnquoted "do".toList := isUnquoted_of_all (by decide)
  obtain ⟨header, context, verification, bare, -⟩ :=
    Phrase.first?_language own (openingLine "describe".toList title "do".toList)
  refine ⟨?_, accepts_openingLine⟩
  rintro ⟨phrase, accepted⟩
  cases phrase with
  | describeHeader =>
    exact .inl (title_of_within_openingLine plainWord plain plainBlock (header.mp accepted)).2
  | contextHeader =>
    have suffix :=
      (title_of_within_openingLine plainWord plain plainBlock (context.mp accepted)).1
    exact absurd suffix (by decide)
  | verification =>
    obtain ⟨before, _, after, same, -, ⟨it, gap, quote, verb, read, plural, space, name, rfl,
      isIt, isGap, isFirst, -⟩, -⟩ := verification.mp accepted
    have shape : openingLine "describe".toList title "do".toList =
        (before ++ it) ++ (gap ++ quote :: (read ++ (plural ++ (space ++ (name ++ after))))) := by
      simp only [same, List.append_assoc, List.cons_append]
    have inWord := (openingLine_gap plainWord plain plainBlock isGap isFirst shape).1
    exact absurd ⟨before, inWord⟩ (not_suffix_of_folds isIt)
  | bareDescribe =>
    exact .inr (title_of_within_openingLine plainWord plain plainBlock (bare.mp accepted)).2

/-! ### The advice -/

/-- A header that is suggested for the key of a routine or for one of its aliases helps. The only
other one is the name under the other sigil. It does not help, unless an alias reads like it behind
its sigil. -/
theorem helps_of_expected {key : HeaderKey} {table : AliasTable} {header : String}
    (expected : header ∈ (expectedHeaders key table).1) :
    ((∃ own ∈ key :: table.aliases key.toString, header = suggestedHeader own) →
        Helps key table (header ++ " do").toList) ∧
      ((∀ own ∈ key :: table.aliases key.toString, header ≠ suggestedHeader own) →
        header = suggestedHeader key.opposite ∧
          (IsUnquoted key.name → (Helps key table (header ++ " do").toList ↔
            ∃ other ∈ table.aliases key.toString, other.name = key.opposite.chars))) := by
  constructor
  · rintro ⟨own, isOwn, rfl⟩
    rw [toList_suggestedHeader, helps_iff_accepts]
    exact ⟨own, isOwn, accepts_openingLine (.inl rfl)⟩
  · intro foreign
    have isOpposite : header = suggestedHeader key.opposite := by
      obtain ⟨own, member, rfl⟩ := mem_expectedHeaders_iff.mp expected
      rcases List.mem_cons.mp member with rfl | rest
      · exact absurd rfl (foreign own List.mem_cons_self)
      · rcases List.mem_cons.mp rest with rfl | isAlias
        · rfl
        · exact absurd rfl (foreign own (List.mem_cons_of_mem _ isAlias))
    refine ⟨isOpposite, fun plain => ?_⟩
    have plainTitle : IsUnquoted key.opposite.chars := by
      intro c member
      rcases List.mem_cons.mp member with rfl | inName
      · cases key.opposite.scope <;> decide
      · exact plain c inName
    rw [isOpposite, toList_suggestedHeader, helps_iff_accepts]
    simp only [accepts_openingLine_iff plainTitle]
    constructor
    · rintro ⟨own, isOwn, reads | bare⟩
      · rw [HeaderKey.chars_injective reads] at isOwn
        exact absurd isOpposite (foreign _ isOwn)
      · rcases List.mem_cons.mp isOwn with rfl | isAlias
        · -- the title is longer than the name by its sigil
          have lengths := congrArg List.length bare
          simp [HeaderKey.chars, HeaderKey.opposite] at lengths
        · exact ⟨own, isAlias, bare⟩
    · rintro ⟨other, isAlias, bare⟩
      exact ⟨other, List.mem_cons_of_mem _ isAlias, .inr bare⟩

/-- A routine with one alias. -/
def walkAliases : AliasTable := ⟨[("#run", ["#walk"])]⟩

/-- The alias helps, the other sigil does not. -/
theorem helps_of_expected_run :
    "describe '#walk'" ∈ (expectedHeaders runKey walkAliases).1 ∧
      "describe '.run'" ∈ (expectedHeaders runKey walkAliases).1 ∧
      Helps runKey walkAliases ("describe '#walk'" ++ " do").toList ∧
      ¬Helps runKey walkAliases ("describe '.run'" ++ " do").toList := by
  have aliased : "describe '#walk'" ∈ (expectedHeaders runKey walkAliases).1 := by decide
  have otherSigil : "describe '.run'" ∈ (expectedHeaders runKey walkAliases).1 := by decide
  have own : ∃ own ∈ runKey :: walkAliases.aliases runKey.toString,
      "describe '#walk'" = suggestedHeader own := by decide
  have foreign : ∀ own ∈ runKey :: walkAliases.aliases runKey.toString,
      "describe '.run'" ≠ suggestedHeader own := by decide
  have plain : IsUnquoted runKey.name := isUnquoted_of_all (by decide)
  have unread : ¬∃ other ∈ walkAliases.aliases runKey.toString,
      other.name = runKey.opposite.chars := by decide
  exact ⟨aliased, otherSigil, (helps_of_expected aliased).1 own,
    fun helps => unread ((((helps_of_expected otherSigil).2 foreign).2 plain).mp helps)⟩

/-- The name under the other sigil is suggested, but a spec with that line documents another
routine. -/
theorem other_sigil_is_no_help :
    "describe '.run'" ∈ (expectedHeaders runKey .empty).1 ∧
      (covers (oneSpec "") [runSpecPath] runKey .empty .empty).1 = false ∧
      (covers (oneSpec "describe '.run' do") [runSpecPath] runKey .empty .empty).1 = false ∧
      ¬Helps runKey .empty ("describe '.run'" ++ " do").toList := by
  have expected : "describe '.run'" ∈ (expectedHeaders runKey .empty).1 := by decide
  have before : (covers (oneSpec "") [runSpecPath] runKey .empty .empty).1 = false := by
    decide
  have after : (covers (oneSpec "describe '.run' do") [runSpecPath] runKey .empty .empty).1 =
      false := by decide
  refine ⟨expected, before, after, fun helps => ?_⟩
  have inserted : LineInserted ("describe '.run'" ++ " do").toList
      (Cache.empty.seenText (oneSpec "") runSpecPath).toList
      (Cache.empty.seenText (oneSpec "describe '.run' do") runSpecPath).toList :=
    ⟨[], [], by decide, by decide +kernel⟩
  have covered := helps (oneSpec "") (oneSpec "describe '.run' do") [runSpecPath] runSpecPath .empty
    .empty List.mem_cons_self before inserted (by simp)
  rw [after] at covered
  cases covered

end SpecLint.Spec
