import SpecLint.Proofs.Check.Findings
import SpecLint.Proofs.Code.Parts
import SpecLint.Proofs.Spec.OutermostHeaders
import SpecLint.Proofs.Spec.Phrases
import SpecLint.Proofs.Text.Decoding

/-!
# Headers in trees and in texts

The scenarios of a routine are counted under header calls in the trees of its spec files, but
whether it is documented is decided by phrases in their texts. A header call in a tree comes from a
call whose word stands in the text. It is found there as well if blanks and the title between quotes
follow the word, and not if anything else does, such as a parenthesis.

## Main result

`covers_iff_plain`: where scenarios are counted for a routine there is a header call for it, and the
routine is documented exactly if such a call is written plainly or some phrase for the routine
stands elsewhere in the texts.
-/
namespace SpecLint.Check

open SpecLint.Code SpecLint.Spec SpecLint.Text
open SpecLint.Code.Concrete (construct token)

/-- A header call with one of the titles in the tree of a spec file. -/
structure HeaderCall (project : Project) (path : Path) (titles : List String) where
  call : Concrete
  /-- The token that names the call. -/
  name : Concrete
  word : String
  title : String
  /-- The text before the word. -/
  front : List Char
  /-- The text behind the word. -/
  tail : List Char
  inside : Inside (project.grammar (project.specText path).toUTF8) call
  isCall : call.kind = "call"
  isName : call.children.find? (·.field == some "method") = some name
  isWord : word ∈ headerWords
  isTitle : title ∈ titles
  hasTitle :
    let source := Source.ofBytes (project.specText path).toUTF8
    let node := callFrom source call (readAll source call.children)
    title? node = some title ∧ hasBlock node = true
  stands : (project.specText path).toList = front ++ word.toList ++ tail
  offset : (String.ofList front).utf8ByteSize = name.start

variable {project : Project} {path : Path} {titles : List String}

/-- The word of the call starts at a word boundary, and blanks and the quoted title follow it. -/
def HeaderCall.Plain (header : HeaderCall project path titles) : Prop :=
  isBoundary header.front.getLast? header.word.toList.head? = true ∧
    Quotes header.title.toList header.tail

/-! ### From scenarios to header calls -/

theorem title?_eq_some {node : Node} {title : String} (titled : title? node = some title) :
    hasArguments node = true ∧
      ∃ receiver word args attached loc, node = .call receiver word args attached loc ∧
        word ∈ headerWords := by
  unfold title? at titled
  split at titled
  next receiver word written loc args attached place =>
    split at titled
    next called =>
      simp only [callsOneOf, Bool.and_eq_true] at called
      exact ⟨rfl, receiver, word, _, attached, place, rfl, List.contains_iff_mem.mp called.1⟩
    next => cases titled
  next => cases titled

/-- The word of a call is the text of the token that names the call. -/
theorem exists_name_of_callFrom {source : Source} {call : Concrete} {word : String}
    {receiver attached : Option Node} {args : List Node} {loc : Option Location}
    (made : callFrom source call (readAll source call.children) =
      .call receiver word args attached loc) (isWord : word ≠ "call") :
    ∃ name, call.children.find? (·.field == some "method") = some name ∧
      textOf source name = word := by
  simp only [callFrom, part?_readAll, Node.call.injEq] at made
  obtain ⟨_, named, _⟩ := made
  cases found : call.children.find? (·.field == some "method") with
  | none =>
    rw [found] at named
    subst named
    -- a call that names no method is one of `call`
    exact absurd rfl isWord
  | some name =>
    rw [found] at named
    exact ⟨name, rfl, by simpa [tree_read] using named⟩

theorem isPlain_of_headerWord {word : String} (isWord : word ∈ headerWords) :
    ∀ c ∈ word.toList, isPlain c = true := by
  have words : ∀ word ∈ headerWords, word.toList.all isPlain = true := by decide +kernel
  exact List.all_eq_true.mp (words word isWord)

/-- Where scenarios are counted there is a header call. -/
theorem exists_headerCall
    (counted : countContexts (project.specParsed path).root titles ≠ none) :
    Nonempty (HeaderCall project path titles) := by
  have found : findHeaders (project.specParsed path).root titles ≠ [] :=
    mt (scenarios_eq_none_iff _).mpr counted
  obtain ⟨node, member⟩ := List.exists_mem_of_ne_nil _ found
  have isHeader := isHeaderTitled_of_mem_findHeaders member
  simp only [isHeaderTitled, Bool.and_eq_true, Option.any_eq_true] at isHeader
  obtain ⟨hasBlock, title, titled, isTitle⟩ := isHeader
  -- a title is an argument, so the call is one of the source and not a bare name
  obtain ⟨arguments, receiver, word, args, attached, loc, shape, isWord⟩ := title?_eq_some titled
  obtain ⟨call, inside, isCall, made⟩ :=
    origin_of_mem_walk (mem_walk_of_mem_findHeaders member) arguments
  have noHeader : "call" ∉ headerWords := by decide
  obtain ⟨name, isName, isText⟩ := exists_name_of_callFrom (made.symm.trans shape)
    (ne_of_mem_of_not_mem isWord noHeader)
  obtain ⟨c, rest, chars, _⟩ := headerWord_eq_cons isWord
  have nonempty : word.toList ≠ [] := by simp [chars]
  -- the offsets of the word cut it out of the text
  obtain ⟨front, tail, stands, offset⟩ := exists_append_of_decode (isPlain_of_headerWord isWord)
    nonempty (isText.trans String.ofList_toList.symm)
  rw [made] at titled hasBlock
  exact ⟨{ call, name, word, title, front, tail, inside, isCall, isName, isWord,
           isTitle := List.contains_iff_mem.mp isTitle, hasTitle := ⟨titled, hasBlock⟩,
           stands, offset }⟩

/-! ### From header calls to phrases -/

variable {paths : List Path} {key : HeaderKey} {table : AliasTable}

/-- Whether a key or one of its aliases is documented. -/
def isCovered (project : Project) (paths : List Path) (key : HeaderKey) (table : AliasTable) :
    Bool :=
  (key :: table.aliases key.toString).any (project.documents paths)

theorem documents_iff :
    project.documents paths key = true ↔ ∃ path ∈ paths, ∃ phrase : Phrase, ∃ front rest,
      (project.specText path).toList = front ++ rest ∧ phrase.stands key rest = true ∧
        isBoundary front.getLast? rest.head? = true := by
  simp only [Project.documents, List.any_eq_true, Phrase.first?_isSome, Phrase.accepts_iff]

/-- A header call that is written plainly documents the routine. -/
theorem isCovered_of_plain (inPaths : path ∈ paths)
    {header : HeaderCall project path (headerTitles key table)} (plain : header.Plain) :
    isCovered project paths key table = true := by
  obtain ⟨boundary, quotes⟩ := plain
  obtain ⟨own, isKey, named⟩ := List.mem_map.mp header.isTitle
  rw [← named] at quotes
  have isHeader := (isHeader_headerWord_iff header.isWord).mpr quotes
  -- the word is one of the two words of header phrases
  have phrase : ∃ phrase : Phrase,
      phrase.stands own (header.word.toList ++ header.tail) = true := by
    rcases baseOf_headerWord header.isWord with base | base
    · exact ⟨.describeHeader, by simpa [Phrase.stands, ← base, HeaderKey.toString] using isHeader⟩
    · exact ⟨.contextHeader, by simpa [Phrase.stands, ← base, HeaderKey.toString] using isHeader⟩
  obtain ⟨phrase, stands⟩ := phrase
  obtain ⟨c, rest, chars, _⟩ := headerWord_eq_cons header.isWord
  refine List.any_eq_true.mpr ⟨own, isKey, documents_iff.mpr ⟨path, inPaths, phrase, header.front,
    header.word.toList ++ header.tail, ?_, stands, ?_⟩⟩
  · rw [header.stands, List.append_assoc]
  · simpa [chars] using boundary

/-- A phrase for the routine stands where no header call for it has its word. -/
def DocumentedElsewhere (project : Project) (paths : List Path) (key : HeaderKey)
    (table : AliasTable) : Prop :=
  ∃ path ∈ paths, ∃ own ∈ key :: table.aliases key.toString, ∃ phrase : Phrase, ∃ front rest,
    (project.specText path).toList = front ++ rest ∧ phrase.stands own rest = true ∧
      isBoundary front.getLast? rest.head? = true ∧
      ∀ header : HeaderCall project path (headerTitles key table), header.front ≠ front

/-- At the word of a header call, only the call itself can be found. -/
theorem plain_of_stands {header : HeaderCall project path titles} {own : HeaderKey}
    {phrase : Phrase} {rest : List Char} (written : Written header.title.toList header.tail)
    (here : (project.specText path).toList = header.front ++ rest)
    (stands : phrase.stands own rest = true)
    (boundary : isBoundary header.front.getLast? rest.head? = true) : header.Plain := by
  rw [header.stands, List.append_assoc] at here
  -- the phrase begins with the word of the call
  obtain rfl := List.append_cancel_left here
  obtain ⟨other, quotes⟩ := quotes_of_stands header.isWord stands
  obtain ⟨c, more, chars, _⟩ := headerWord_eq_cons header.isWord
  refine ⟨?_, quotes_of_written written quotes⟩
  simpa [chars] using boundary

theorem plain_or_elsewhere
    (written : ∀ path ∈ paths, ∀ header : HeaderCall project path (headerTitles key table),
      Written header.title.toList header.tail)
    (covered : isCovered project paths key table = true) :
    (∃ path ∈ paths, ∃ header : HeaderCall project path (headerTitles key table), header.Plain) ∨
      DocumentedElsewhere project paths key table := by
  obtain ⟨own, isKey, documents⟩ := List.any_eq_true.mp covered
  obtain ⟨path, inPaths, phrase, front, rest, here, stands, boundary⟩ := documents_iff.mp documents
  -- a phrase stands at the word of some call or at none
  by_cases atCall : ∃ header : HeaderCall project path (headerTitles key table),
      header.front = front
  · obtain ⟨header, rfl⟩ := atCall
    exact .inl ⟨path, inPaths, header,
      plain_of_stands (written path inPaths header) here stands boundary⟩
  · exact .inr ⟨path, inPaths, own, isKey, phrase, front, rest, here, stands, boundary,
      fun header same => atCall ⟨header, same⟩⟩

theorem isCovered_of_elsewhere (elsewhere : DocumentedElsewhere project paths key table) :
    isCovered project paths key table = true := by
  obtain ⟨path, inPaths, own, isKey, phrase, front, rest, here, stands, boundary, _⟩ := elsewhere
  exact List.any_eq_true.mpr ⟨own, isKey,
    documents_iff.mpr ⟨path, inPaths, phrase, front, rest, here, stands, boundary⟩⟩

/-- Where scenarios are counted for a routine, its spec files hold a header call for it. The routine
is documented if such a call is written plainly, and then it is not reported; and where titles are
written in delimiters of which only quotes begin with one, it is documented only by a call that is
written plainly or by a phrase elsewhere. -/
theorem covers_iff_plain {cache later : Cache} (recalls : cache.Recalls project)
    (laterRecalls : later.Recalls project)
    (counted : (contextTotal project paths key table cache).1 ≠ none) :
    let titles := headerTitles key table
    let plain := ∃ path ∈ paths, ∃ header : HeaderCall project path titles, header.Plain
    (∃ path ∈ paths, Nonempty (HeaderCall project path titles)) ∧
    (plain → (covers project paths key table later).1 = true ∧
      ∀ context subject, context.project = project → subject.candidates.paths = paths →
        subject.routine.headerKey = key → context.settings.publicMethodHasSpec.aliases = table →
        objection context false subject .publicMethodHasSpec = none) ∧
    ((∀ path ∈ paths, ∀ header : HeaderCall project path titles,
        Written header.title.toList header.tail) →
      ((covers project paths key table later).1 = true ↔
        plain ∨ DocumentedElsewhere project paths key table)) := by
  have total := (answers_contextTotal paths key table cache recalls).1
  have covering : (covers project paths key table later).1 = isCovered project paths key table :=
    (answers_covers paths key table later laterRecalls).1
  have covered : (∃ path ∈ paths, ∃ header : HeaderCall project path (headerTitles key table),
      header.Plain) → isCovered project paths key table = true := by
    rintro ⟨path, inPaths, header, plain⟩
    exact isCovered_of_plain inPaths plain
  rw [covering]
  refine ⟨?_, ?_, ?_⟩
  · rw [total, ne_eq, sumCounts_eq_none_iff] at counted
    simp only [List.forall_mem_map, Classical.not_forall] at counted
    obtain ⟨path, inPaths, some⟩ := counted
    exact ⟨path, inPaths, exists_headerCall some⟩
  · intro plain
    refine ⟨covered plain, ?_⟩
    rintro context subject rfl rfl rfl rfl
    have isDocumented : documented context false subject
        context.settings.publicMethodHasSpec.aliases = true := covered plain
    simp only [objection, isDocumented, if_true]
  · intro written
    constructor
    · exact plain_or_elsewhere written
    · rintro (plain | elsewhere)
      · exact covered plain
      · exact isCovered_of_elsewhere elsewhere

/-! ### A title after a blank and a title in parentheses -/

def nameSpecPath : Path := ⟨"", ["spec", "name_spec.rb"]⟩

def nameKey : HeaderKey := ⟨.ofInstance, "name".toList⟩

/-- A project whose only spec file holds one call. -/
def specOf (text : String) (call : Concrete) : Project where
  disk := ⟨[], [(["spec"], .directory), (["spec", "name_spec.rb"], .file text.toUTF8)]⟩
  grammar := fun _ => construct "program" 0 text.utf8ByteSize none [call]

def nameTitle : Concrete :=
  construct "string" 9 16 none
    [token "\"" 9 10, construct "string_content" 10 15 none [], token "\"" 15 16]

def nameCall (arguments block : Concrete) : Concrete :=
  construct "call" 0 block.stop none
    [construct "identifier" 0 8 (some "method") [], arguments, block]

def plainText : String := "describe '#name' do\nend\n"

def plainProject : Project :=
  specOf plainText <| nameCall (construct "argument_list" 9 16 (some "arguments") [nameTitle])
    (construct "do_block" 17 23 (some "block") [token "do" 17 19, token "end" 20 23])

def parenthesisedProject : Project :=
  specOf "describe('#name') {}\n" <| nameCall
    (construct "argument_list" 8 17 (some "arguments") [token "(" 8 9, nameTitle, token ")" 16 17])
    (construct "block" 18 20 (some "block") [token "\x7b" 18 19, token "\x7d" 19 20])

/-- A header call is found in the tree but not in the text. -/
theorem parenthesised_is_not_covered :
    (contextTotal parenthesisedProject [nameSpecPath] nameKey .empty .empty).1 = some 0 ∧
      (covers parenthesisedProject [nameSpecPath] nameKey .empty .empty).1 = false := by
  constructor <;> decide +kernel

/-- The place of a word within a text. -/
theorem isPrefixOf_drop {text front word tail : List Char} (stands : text = front ++ word ++ tail) :
    front.length < text.length + 1 ∧ word.isPrefixOf (text.drop front.length) = true := by
  subst stands
  constructor
  · simp only [List.length_append]
    omega
  · simp [List.append_assoc]

theorem headerCall_of_plainText
    (header : HeaderCall plainProject nameSpecPath (headerTitles nameKey .empty)) :
    header.front = [] ∧ header.word = "describe" ∧ header.title = "#name" ∧
      header.tail = " '#name' do\nend\n".toList := by
  have text : plainProject.specText nameSpecPath = plainText := by decide +kernel
  have only : ∀ title ∈ headerTitles nameKey .empty, title = "#name" := by decide +kernel
  have alone : ∀ word ∈ headerWords, ∀ before < plainText.toList.length + 1,
      word.toList.isPrefixOf (plainText.toList.drop before) = true →
        before = 0 ∧ word = "describe" := by
    decide +kernel
  have stands := header.stands
  rw [text] at stands
  obtain ⟨inText, here⟩ := isPrefixOf_drop stands
  obtain ⟨atStart, isWord⟩ := alone _ header.isWord _ inText here
  have noFront : header.front = [] := List.length_eq_zero_iff.mp atStart
  refine ⟨noFront, isWord, only _ header.isTitle, ?_⟩
  rw [noFront, isWord, List.nil_append] at stands
  have split : plainText.toList = "describe".toList ++ " '#name' do\nend\n".toList := by
    decide +kernel
  exact (List.append_cancel_left (split.symm.trans stands)).symm

/-- The only call of the plain text documents its routine. -/
theorem covers_iff_plain_name :
    let titles := headerTitles nameKey .empty
    (contextTotal plainProject [nameSpecPath] nameKey .empty .empty).1 ≠ none ∧
      (∃ header : HeaderCall plainProject nameSpecPath titles, header.Plain) ∧
      (∀ header : HeaderCall plainProject nameSpecPath titles,
        Written header.title.toList header.tail) ∧
      (covers plainProject [nameSpecPath] nameKey .empty .empty).1 = true := by
  have recalls := Cache.recalls_empty plainProject
  have counted : (contextTotal plainProject [nameSpecPath] nameKey .empty .empty).1 ≠ none := by
    decide +kernel
  obtain ⟨found, covered, only⟩ := covers_iff_plain recalls recalls counted
  obtain ⟨path, inPaths, ⟨header⟩⟩ := found
  obtain rfl := List.mem_singleton.mp inPaths
  have plain : header.Plain := by
    obtain ⟨front, word, title, tail⟩ := headerCall_of_plainText header
    have blank : ∀ c ∈ [' '], isBlank c = true := by
      intro c isSpace
      rw [List.mem_singleton.mp isSpace]
      decide +kernel
    refine ⟨?_, [' '], '\'', '\'', " do\nend\n".toList, ?_, by simp, blank, by decide, by decide⟩
    · rw [front, word]
      decide +kernel
    · rw [title, tail]
      decide +kernel
  have written (header : HeaderCall plainProject nameSpecPath (headerTitles nameKey .empty)) :
      Written header.title.toList header.tail := by
    obtain ⟨_, _, title, tail⟩ := headerCall_of_plainText header
    have noGap : [' '].dropWhile isBlank = [] := by decide +kernel
    refine ⟨[' '], '\'', [], ['\''], " do\nend\n".toList, ?_, by decide +kernel, ?_,
      by simp [noGap]⟩
    · rw [title, tail]
      decide +kernel
    · exact fun _ => ⟨rfl, '\'', rfl, by decide⟩
  refine ⟨counted, ⟨header, plain⟩, written, ?_⟩
  refine (only ?_).mpr (.inl ⟨nameSpecPath, inPaths, header, plain⟩)
  intro path inPaths
  obtain rfl := List.mem_singleton.mp inPaths
  exact written

end SpecLint.Check
