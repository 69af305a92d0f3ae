import SpecLint.Spec.HeaderKey
import SpecLint.Text.Word

/-!
# Phrases that document a routine

A spec text documents a routine in one of four ways, tried in order: a `describe` header with the
key, a `context` header with the key, an example that says it tests the name, or a `describe` header
with the bare name. Headers may be focused or skipped (`fdescribe`, `xdescribe`). A phrase is looked
for at every position of the text; it starts at a word boundary.
-/
namespace SpecLint.Spec

open SpecLint.Text

/-- The rest after a text at the start. -/
def after? (expected : List Char) (text : List Char) : Option (List Char) :=
  if expected.isPrefixOf text then some (text.drop expected.length) else none

/-- The rest after a text at the start, where letter case is ignored. -/
def afterFolded? : List Char → List Char → Option (List Char)
  | [], text => some text
  | _ :: _, [] => none
  | c :: expected, d :: text => if sameFold c d then afterFolded? expected text else none

/-- The rest after all blanks at the start, at least one. -/
def afterBlanks? (text : List Char) : Option (List Char) :=
  match text with
  | c :: rest => if isBlank c then some (rest.dropWhile isBlank) else none
  | [] => none

/-- The rests after some blanks at the start, at least one. -/
def blankTails : List Char → List (List Char)
  | [] => []
  | c :: rest => if isBlank c then rest :: blankTails rest else []

def isQuote (c : Char) : Bool := c = '\'' || c = '"'

/-- The rest after one quote. -/
def afterQuote? (text : List Char) : Option (List Char) :=
  match text with
  | c :: rest => if isQuote c then some rest else none
  | [] => none

/-- The rest after the letter that focuses or skips a header, if there is one. -/
def afterFocus (text : List Char) : List Char :=
  match text with
  | c :: rest => if c = 'f' ∨ c = 'x' then rest else text
  | [] => []

/-- `word "title"` at the start of the text. -/
def isHeader (word title text : List Char) : Bool :=
  (do
    let rest ← after? word (afterFocus text)
    let rest ← afterBlanks? rest
    let rest ← afterQuote? rest
    let rest ← after? title rest
    afterQuote? rest).isSome

/-- The verbs of an example that tests a routine, without an optional final `s`. -/
def verificationVerbs : List (List Char) :=
  ["test".toList, "check".toList, "verifie".toList, "validate".toList]

/-- Code points that would continue a name. -/
def nameRanges : List (Nat × Nat) :=
  [(0x21, 0x21), (0x30, 0x39), (0x3D, 0x3D), (0x3F, 0x3F), (0x41, 0x5A), (0x5F, 0x5F), (0x61, 0x7A)]

/-- Whether a character continues a name when letter case is ignored. -/
def continuesName (c : Char) : Bool := (foldSources c).any (inRanges nameRanges)

/-- The rest after an `s` that may be left out. -/
def afterPlural (text : List Char) : List Char := (afterFolded? ['s'] text).getD text

/-- `verb name`, where the name ends. -/
def isVerification (name verb text : List Char) : Bool :=
  match afterFolded? verb text with
  | none => false
  | some rest =>
    (blankTails (afterPlural rest)).any fun rest =>
      match afterFolded? name rest with
      | none => false
      | some [] => true
      | some (c :: _) => !continuesName c

/-- `it "verb name` at the start of the text, where letter case is ignored. -/
def isExampleOf (name text : List Char) : Bool :=
  match (do
    let rest ← afterFolded? ['i', 't'] text
    let rest ← afterBlanks? rest
    afterQuote? rest) with
  | none => false
  | some rest => verificationVerbs.any fun verb => isVerification name verb rest

/-- Whether a test holds at some position of a text, given the character before it. -/
def somewhere (test : Option Char → List Char → Bool) : Option Char → List Char → Bool
  | before, [] => test before []
  | before, c :: rest => test before (c :: rest) || somewhere test (some c) rest

/-- Whether a phrase stands at a word boundary of the text. -/
def occurs (phrase : List Char → Bool) (text : List Char) : Bool :=
  somewhere (fun before rest => phrase rest && isBoundary before rest.head?) none text

inductive Phrase where
  | describeHeader
  | contextHeader
  | verification
  | bareDescribe
  deriving DecidableEq, Repr

namespace Phrase

def name : Phrase → String
  | describeHeader => "describe_header"
  | contextHeader => "context_header"
  | verification => "verification_phrase"
  | bareDescribe => "bare_describe"

/-- All phrases in the order in which they are tried. -/
def all : List Phrase := [describeHeader, contextHeader, verification, bareDescribe]

/-- Whether the phrase for a key stands in the text. -/
def accepts (phrase : Phrase) (key : HeaderKey) (text : List Char) : Bool :=
  match phrase with
  | describeHeader => occurs (isHeader "describe".toList key.chars) text
  | contextHeader => occurs (isHeader "context".toList key.chars) text
  | verification => occurs (isExampleOf key.name) text
  | bareDescribe => occurs (isHeader "describe".toList key.name) text

/-- The first phrase for a key that stands in the text. -/
def first? (key : HeaderKey) (text : List Char) : Option Phrase :=
  all.find? fun phrase => phrase.accepts key text

theorem mem_all (phrase : Phrase) : phrase ∈ all := by cases phrase <;> decide

/-- A text documents a routine as soon as one phrase stands in it. -/
theorem first?_isSome (key : HeaderKey) (text : List Char) :
    (first? key text).isSome = true ↔ ∃ phrase : Phrase, phrase.accepts key text = true := by
  simp only [first?, List.find?_isSome]
  exact ⟨fun ⟨phrase, _, holds⟩ => ⟨phrase, holds⟩,
    fun ⟨phrase, holds⟩ => ⟨phrase, mem_all _, holds⟩⟩

end Phrase

/-- The words that start an example. -/
def exampleWords : List (List Char) := ["it".toList, "example".toList, "specify".toList]

/-- One of the words, not continued by a word character. -/
def startsExample (text : List Char) : Bool :=
  exampleWords.any fun word =>
    match after? word text with
    | none => false
    | some rest => !(rest.head?.any isWord)

/-- Whether a line of the text opens with an example; blank lines may come between. -/
def hasExample (text : List Char) : Bool :=
  somewhere
    (fun before rest =>
      (before.isNone || before == some '\n') && startsExample (rest.dropWhile isBlank))
    none text

/-- A test that holds somewhere holds at a suffix. -/
theorem somewhere_iff (test : Option Char → List Char → Bool) (before : Option Char)
    (text : List Char) :
    somewhere test before text = true ↔
      ∃ front rest, text = front ++ rest ∧ test (front.getLast?.or before) rest = true := by
  induction text generalizing before with
  | nil =>
    constructor
    · intro holds
      exact ⟨[], [], rfl, by simpa [somewhere] using holds⟩
    · rintro ⟨front, rest, split, holds⟩
      obtain ⟨rfl, rfl⟩ := List.append_eq_nil_iff.mp split.symm
      simpa [somewhere] using holds
  | cons c tail ih =>
    simp only [somewhere, Bool.or_eq_true, ih]
    constructor
    · rintro (here | ⟨front, rest, rfl, holds⟩)
      · exact ⟨[], c :: tail, rfl, by simpa using here⟩
      · refine ⟨c :: front, rest, rfl, ?_⟩
        rw [List.getLast?_cons]
        cases last : front.getLast? <;> simp_all
    · rintro ⟨front, rest, split, holds⟩
      cases front with
      | nil => left; simp only [List.nil_append] at split; subst split; simpa using holds
      | cons d front =>
        right
        simp only [List.cons_append, List.cons.injEq] at split
        obtain ⟨rfl, rfl⟩ := split
        refine ⟨front, rest, rfl, ?_⟩
        rw [List.getLast?_cons] at holds
        cases last : front.getLast? <;> simp_all

end SpecLint.Spec
