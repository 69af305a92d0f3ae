import SpecLint.Data.Rendered

/-!
# Reading YAML text

A cursor is the rest of a text with the line and column it starts at. Line ends are line feeds,
next-line characters and the two Unicode separators; the former two read as line feeds.
-/
namespace SpecLint.Yaml

/-- Why a text is no single YAML document of plain data. -/
inductive Cause where
  | unprintable
  | badStart
  | missingColon
  | misplacedEntry
  | misplacedKey
  | misplacedValue
  | badName
  | badDirective
  | badTag
  | badBlockHeader
  | unclosedQuote
  | documentInQuote
  | badEscape
  | missingContent
  | missingSeparator
  | missingBlockEnd
  | missingDocumentStart
  | secondDocument
  | unknownAlias
  | repeatedAnchor
  | unknownTag
  | wrongShape
  | badBytes
  | badMerge
  | collectionAsKey
  deriving DecidableEq, Repr

def Cause.message : Cause → String
  | unprintable => "special characters are not allowed"
  | badStart => "found a character that cannot start any token"
  | missingColon => "could not find expected ':'"
  | misplacedEntry => "sequence entries are not allowed here"
  | misplacedKey => "mapping keys are not allowed here"
  | misplacedValue => "mapping values are not allowed here"
  | badName => "expected alphabetic or numeric character"
  | badDirective => "malformed directive"
  | badTag => "malformed tag"
  | badBlockHeader => "expected chomping or indentation indicators"
  | unclosedQuote => "found unexpected end of stream"
  | documentInQuote => "found unexpected document separator"
  | badEscape => "found unknown escape character"
  | missingContent => "expected the node content"
  | missingSeparator => "expected a separator or the end of the collection"
  | missingBlockEnd => "expected the end of the block"
  | missingDocumentStart => "expected the start of a document"
  | secondDocument => "expected a single document in the stream"
  | unknownAlias => "found undefined alias"
  | repeatedAnchor => "found duplicate anchor"
  | unknownTag => "could not determine a constructor for the tag"
  | wrongShape => "expected a node of another shape"
  | badBytes => "failed to decode base64 data"
  | badMerge => "expected a mapping or list of mappings for merging"
  | collectionAsKey => "found unhashable key"

/-- Why a well-formed scalar has no meaning. -/
inductive Misfit where
  /-- A date, moment or number that does not exist, or that is too long. -/
  | noSuchValue
  /-- A number or character code out of the range that can be represented. -/
  | outOfRange
  /-- A number without any digits. -/
  | emptyNumber
  /-- A word that stands for no truth value. -/
  | unknownWord
  /-- A text that has not the form of a date or moment. -/
  | noMoment
  /-- A date or moment that is written as a mapping. -/
  | momentOfMapping
  deriving DecidableEq, Repr

def Misfit.message : Misfit → String
  | noSuchValue => "no such value"
  | outOfRange => "number out of range"
  | emptyNumber => "number without digits"
  | unknownWord => "no truth value"
  | noMoment => "no date or moment"
  | momentOfMapping => "a mapping for a date or moment"

/-- A malformed document, or a scalar without meaning. -/
inductive Fault where
  | malformed (cause : Cause) (line : Nat)
  | unfit (misfit : Misfit)
  deriving DecidableEq, Repr

def Fault.message : Fault → String
  | malformed cause line =>
    "malformed YAML in line " ++ String.ofList (Data.natText line) ++ ": " ++ cause.message
  | unfit misfit => misfit.message

structure Cursor where
  rest : List Char
  /-- The number of characters in the rest. -/
  left : Nat
  line : Nat
  column : Nat
  deriving Repr

def isBreak (c : Char) : Bool := c = '\n' || c = '\u0085' || c = '\u2028' || c = '\u2029'

/-- Line ends, blanks and the end of the text. -/
def endsWord : Option Char → Bool
  | none => true
  | some c => c = ' ' || c = '\t' || isBreak c

/-- Line ends, spaces and the end of the text. -/
def endsLineWord : Option Char → Bool
  | none => true
  | some c => c = ' ' || isBreak c

namespace Cursor

def start (text : List Char) : Cursor := ⟨text, text.length, 0, 0⟩

def peek (cursor : Cursor) : Option Char := cursor.rest.head?

def peekAt (cursor : Cursor) (distance : Nat) : Option Char := cursor.rest[distance]?

/-- One character further. -/
def step (cursor : Cursor) : Cursor :=
  match cursor.rest with
  | [] => cursor
  | c :: rest =>
    if isBreak c then ⟨rest, cursor.left - 1, cursor.line + 1, 0⟩
    else if c = '\uFEFF' then ⟨rest, cursor.left - 1, cursor.line, cursor.column⟩
    else ⟨rest, cursor.left - 1, cursor.line, cursor.column + 1⟩

def skip : Nat → Cursor → Cursor
  | 0, cursor => cursor
  | count + 1, cursor => skip count cursor.step

/-- The longest run of characters that pass the test. -/
def takeWhile (cursor : Cursor) (test : Char → Bool) : List Char × Cursor :=
  let taken := cursor.rest.takeWhile test
  (taken, cursor.skip taken.length)

def skipWhile (cursor : Cursor) (test : Char → Bool) : Cursor := (cursor.takeWhile test).2

def skipSpaces (cursor : Cursor) : Cursor := cursor.skipWhile (· = ' ')

/-- Skip a comment, up to the end of its line. -/
def skipComment (cursor : Cursor) : Cursor :=
  if cursor.peek = some '#' then cursor.skipWhile fun c => !isBreak c else cursor

/-- The line end here, as it reads. -/
def lineBreak (cursor : Cursor) : List Char × Cursor :=
  match cursor.peek with
  | some c =>
    if c = '\n' ∨ c = '\u0085' then (['\n'], cursor.step)
    else if isBreak c then ([c], cursor.step)
    else ([], cursor)
  | none => ([], cursor)

def atBreak (cursor : Cursor) : Bool := cursor.peek.any isBreak

/-- Whether a line of three equal signs ends or starts a document here. -/
def atDocumentMark (cursor : Cursor) : Bool :=
  ((cursor.rest.take 3 == ['-', '-', '-']) || (cursor.rest.take 3 == ['.', '.', '.'])) &&
    endsWord (cursor.peekAt 3)

def fail {α : Type} (cursor : Cursor) (cause : Cause) : Except Fault α :=
  .error (.malformed cause (cursor.line + 1))

/-- A step keeps the count of what is left. -/
theorem left_step (cursor : Cursor) (counted : cursor.left = cursor.rest.length) :
    cursor.step.left = cursor.step.rest.length := by
  obtain ⟨rest, left, line, column⟩ := cursor
  cases rest with
  | nil => exact counted
  | cons c rest =>
    simp only [List.length_cons] at counted
    simp only [step]
    split
    · simp [counted]
    · split <;> simp [counted]

theorem left_skip (count : Nat) (cursor : Cursor) (counted : cursor.left = cursor.rest.length) :
    (cursor.skip count).left = (cursor.skip count).rest.length := by
  induction count generalizing cursor with
  | zero => exact counted
  | succ count ih => exact ih cursor.step (left_step cursor counted)

end Cursor

end SpecLint.Yaml
