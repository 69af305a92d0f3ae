import SpecLint.Yaml.Scalar

/-!
# Tokens of a YAML document

Indentation is turned into tokens of its own: the start of a block collection where a line is
indented deeper than before, its end where a line is indented less. Whether something is a key is
known only when its colon is met, so the place of every possible key is remembered, and the key
token is put there afterwards. A key must stand on one line and within 1024 characters. Where no
further token can be told, the tokens before stand nevertheless, except those that a key token might
still precede.
-/
namespace SpecLint.Yaml

inductive Token where
  | directive (name : String) (value : Option (String × String))
  | documentStart
  | documentEnd
  | blockSequence
  | blockMapping
  | blockEnd
  | flowSequence
  | flowSequenceEnd
  | flowMapping
  | flowMappingEnd
  | entry
  | separator
  | key
  | value
  | reference (name : String)
  | anchor (name : String)
  | tag (handle : Option String) (suffix : String)
  | scalar (text : String) (plain : Bool)
  deriving DecidableEq, Repr

/-- A place where a key may have started. -/
structure KeyPlace where
  /-- The number of tokens before it. -/
  position : Nat
  required : Bool
  line : Nat
  column : Nat
  /-- The number of characters from here to the end. -/
  left : Nat

structure Lexing where
  cursor : Cursor
  /-- The tokens so far, the last one first. -/
  taken : List Token
  /-- The number of tokens so far. -/
  count : Nat
  /-- The depth of brackets. -/
  flow : Nat
  /-- The column of the current block collection, and those around it. -/
  indent : Int
  outer : List Int
  keyAllowed : Bool
  /-- Possible keys by depth of brackets. -/
  keys : List (Nat × KeyPlace)

namespace Lexing

def start (text : List Char) : Lexing := ⟨Cursor.start text, [], 0, 0, -1, [], true, []⟩

def push (lexing : Lexing) (token : Token) : Lexing :=
  { lexing with taken := token :: lexing.taken, count := lexing.count + 1 }

/-- Put tokens before the one at `position`. -/
def insert (lexing : Lexing) (position : Nat) (tokens : List Token) : Lexing :=
  let behind := lexing.count - position
  { lexing with
    taken := lexing.taken.take behind ++ tokens.reverse ++ lexing.taken.drop behind
    count := lexing.count + tokens.length }

/-- The tokens before `position`, in their order. -/
def before (lexing : Lexing) (position : Nat) : List Token :=
  (lexing.taken.drop (lexing.count - position)).reverse

/-- Putting tokens between others keeps their count. -/
theorem count_insert (lexing : Lexing) (position : Nat) (tokens : List Token)
    (counted : lexing.count = lexing.taken.length) :
    (lexing.insert position tokens).count = (lexing.insert position tokens).taken.length := by
  simp only [insert, List.length_append, List.length_take, List.length_drop, List.length_reverse,
    counted]
  omega

def move (lexing : Lexing) (cursor : Cursor) : Lexing := { lexing with cursor := cursor }

def allowKey (lexing : Lexing) (allowed : Bool) : Lexing := { lexing with keyAllowed := allowed }

def inBlock (lexing : Lexing) : Bool := lexing.flow = 0

def fail {α : Type} (lexing : Lexing) (cause : Cause) : Except Fault α := lexing.cursor.fail cause

/-- Forget the possible key at the current depth; a required one is missed. -/
def forgetKey (lexing : Lexing) : Except Fault Lexing :=
  match lexing.keys.lookup lexing.flow with
  | some place =>
    if place.required then lexing.fail .missingColon
    else .ok { lexing with keys := lexing.keys.filter (·.1 ≠ lexing.flow) }
  | none => .ok lexing

/-- Remember that a key may start here. -/
def rememberKey (lexing : Lexing) : Except Fault Lexing :=
  if lexing.keyAllowed then do
    let cursor := lexing.cursor
    let required := lexing.inBlock && lexing.indent == (cursor.column : Int)
    let lexing ← lexing.forgetKey
    let place : KeyPlace :=
      ⟨lexing.count, required, cursor.line, cursor.column, cursor.left⟩
    return { lexing with keys := (lexing.flow, place) :: lexing.keys }
  else .ok lexing

/-- Whether a possible key lies too far back. -/
def isStale (cursor : Cursor) (place : KeyPlace) : Bool :=
  place.line ≠ cursor.line || place.left > cursor.left + 1024

/-- Forget possible keys that lie too far back. -/
def forgetStale (lexing : Lexing) : Except Fault Lexing :=
  let stale := lexing.keys.filter fun entry => isStale lexing.cursor entry.2
  if stale.any (·.2.required) then lexing.fail .missingColon
  else .ok { lexing with keys := lexing.keys.filter fun entry => !isStale lexing.cursor entry.2 }

/-- End the block collections that are indented deeper than `column`. -/
def unwindFrom (column : Int) : Int → List Int → Nat → Int × List Int × Nat
  | indent, outer, ended =>
    if column < indent then
      match outer with
      | [] => (-1, [], ended + 1)
      | next :: rest => unwindFrom column next rest (ended + 1)
    else (indent, outer, ended)
termination_by _ outer => outer.length

def unwind (lexing : Lexing) (column : Int) : Lexing :=
  if lexing.inBlock then
    let (indent, outer, ended) := unwindFrom column lexing.indent lexing.outer 0
    { lexing with
      indent, outer
      taken := List.replicate ended .blockEnd ++ lexing.taken
      count := lexing.count + ended }
  else lexing

/-- Start a deeper block collection at a column; nothing if it is no deeper. -/
def deepen (lexing : Lexing) (column : Int) : Option Lexing :=
  if lexing.indent < column then
    some { lexing with indent := column, outer := lexing.indent :: lexing.outer }
  else none

/-- Start a block collection here with its token, where one may start. -/
def deepenHere (lexing : Lexing) (token : Token) (cause : Cause) : Except Fault Lexing :=
  if !lexing.inBlock then .ok lexing
  else if !lexing.keyAllowed then lexing.fail cause
  else match lexing.deepen lexing.cursor.column with
    | some deeper => .ok (deeper.push token)
    | none => .ok lexing

/-- Take one character as a token. -/
def takeSign (lexing : Lexing) (token : Token) : Lexing :=
  (lexing.move lexing.cursor.step).push token

end Lexing

open Lexing

def isNameChar (c : Char) : Bool :=
  Number.isDigit c || (decide ('a' ≤ c) && decide (c ≤ 'z')) ||
    (decide ('A' ≤ c) && decide (c ≤ 'Z')) || c = '-' || c = '_'

/-- Skip blank space, comments and line ends; after a line end a block key may start. -/
def toNextToken : Nat → Lexing → Lexing
  | 0, lexing => lexing
  | fuel + 1, lexing =>
    let cursor := lexing.cursor.skipSpaces.skipComment
    if cursor.atBreak then
      let lexing := lexing.move cursor.lineBreak.2
      toNextToken fuel (if lexing.inBlock then lexing.allowKey true else lexing)
    else lexing.move cursor

/-- The end of a directive's line. -/
def directiveEnd (cursor : Cursor) : Except Fault Cursor :=
  let cursor := cursor.skipSpaces.skipComment
  if cursor.peek.isSome ∧ !cursor.atBreak then cursor.fail .badDirective
  else .ok cursor.lineBreak.2

def versionNumber (cursor : Cursor) : Except Fault (String × Cursor) :=
  let (digits, cursor) := cursor.takeWhile Number.isDigit
  if digits = [] then cursor.fail .badDirective
  else if digits.length > Number.digitLimit then .error (.unfit .noSuchValue)
  else .ok (String.ofList digits, cursor)

/-- A tag handle: an exclamation mark, or a name between two of them. -/
def tagHandle (cursor : Cursor) (cause : Cause) : Except Fault (String × Cursor) :=
  if cursor.peek ≠ some '!' then cursor.fail cause
  else
    let cursor := cursor.step
    if cursor.peek = some ' ' then .ok ("!", cursor)
    else
      let (name, cursor) := cursor.takeWhile isNameChar
      if cursor.peek = some '!' then
        .ok (String.ofList ('!' :: (name ++ ['!'])), cursor.step)
      else cursor.fail cause

def isTagChar (c : Char) : Bool :=
  isNameChar c || [';', '/', '?', ':', '@', '&', '=', '+', '$', ',', '.', '!', '~', '*', '\'', '(',
    ')', '[', ']', '%'].contains c

/-- The bytes that are written as a percent sign and two hexadecimal digits each. -/
def escapedBytes : Nat → Cursor → Except Fault (List UInt8 × Cursor)
  | 0, cursor => .ok ([], cursor)
  | fuel + 1, cursor =>
    if cursor.peek = some '%' then do
      let (code, cursor) ← codeAt 2 cursor.step
      let (others, cursor) ← escapedBytes fuel cursor
      return (UInt8.ofNat code :: others, cursor)
    else .ok ([], cursor)

/-- The parts of the suffix of a tag; escaped bytes must be UTF-8. -/
def tagParts (cause : Cause) : Nat → Cursor → Except Fault (List Char × Cursor)
  | 0, cursor => .ok ([], cursor)
  | fuel + 1, cursor =>
    if cursor.peek = some '%' then do
      let (bytes, cursor) ← escapedBytes cursor.left cursor
      match String.fromUTF8? ⟨bytes.toArray⟩ with
      | some part =>
        let (others, cursor) ← tagParts cause fuel cursor
        return (part.toList ++ others, cursor)
      | none => cursor.fail cause
    else
      let (part, cursor) := cursor.takeWhile fun c => c ≠ '%' && isTagChar c
      if part = [] then .ok ([], cursor)
      else do
        let (others, cursor) ← tagParts cause fuel cursor
        return (part ++ others, cursor)

/-- The suffix of a tag. -/
def tagSuffix (cursor : Cursor) (cause : Cause) : Except Fault (String × Cursor) := do
  let (suffix, cursor) ← tagParts cause (cursor.left + 1) cursor
  if suffix = [] then cursor.fail cause else return (String.ofList suffix, cursor)

def versionDirective (cursor : Cursor) : Except Fault ((String × String) × Cursor) := do
  let (major, cursor) ← versionNumber cursor.skipSpaces
  if cursor.peek ≠ some '.' then cursor.fail .badDirective
  else
    let (minor, cursor) ← versionNumber cursor.step
    if endsLineWord cursor.peek then return ((major, minor), cursor)
    else cursor.fail .badDirective

def tagDirective (cursor : Cursor) : Except Fault ((String × String) × Cursor) := do
  let (handle, cursor) ← tagHandle cursor.skipSpaces .badDirective
  if cursor.peek ≠ some ' ' then cursor.fail .badDirective
  else
    let (expansion, cursor) ← tagSuffix cursor.skipSpaces .badDirective
    if endsLineWord cursor.peek then return ((handle, expansion), cursor)
    else cursor.fail .badDirective

def directive (cursor : Cursor) : Except Fault (Token × Cursor) := do
  let (name, cursor) := cursor.step.takeWhile isNameChar
  if name = [] ∨ !endsLineWord cursor.peek then cursor.fail .badDirective
  else
    let written := String.ofList name
    if written = "YAML" then
      let (value, cursor) ← versionDirective cursor
      return (.directive written (some value), ← directiveEnd cursor)
    else if written = "TAG" then
      let (value, cursor) ← tagDirective cursor
      return (.directive written (some value), ← directiveEnd cursor)
    else return (.directive written none, ← directiveEnd (cursor.skipWhile fun c => !isBreak c))

/-- The name of an anchor or alias, after its sign. -/
def anchorName (cursor : Cursor) : Except Fault (String × Cursor) :=
  let (name, cursor) := cursor.step.takeWhile isNameChar
  let ends := endsWord cursor.peek ||
    cursor.peek.any ['?', ':', ',', ']', '\x7d', '%', '@', '`'].contains
  if name = [] ∨ !ends then cursor.fail .badName else .ok (String.ofList name, cursor)

/-- Whether a second exclamation mark follows in the same word. -/
def hasHandle : List Char → Bool
  | [] => false
  | c :: rest => if c = '!' then true else if endsLineWord (some c) then false else hasHandle rest

def tagToken (cursor : Cursor) : Except Fault (Token × Cursor) := do
  let (token, cursor) ←
    if cursor.peekAt 1 = some '<' then
      let (suffix, cursor) ← tagSuffix (cursor.skip 2) .badTag
      if cursor.peek ≠ some '>' then cursor.fail .badTag
      else pure (Token.tag none suffix, cursor.step)
    else if endsWord (cursor.peekAt 1) then pure (Token.tag none "!", cursor.step)
    else
      let (handle, cursor) ←
        if hasHandle cursor.rest.tail then tagHandle cursor .badTag else pure ("!", cursor.step)
      let (suffix, cursor) ← tagSuffix cursor .badTag
      pure (Token.tag (some handle) suffix, cursor)
  if endsLineWord cursor.peek then return (token, cursor) else cursor.fail .badTag

/-- Take a token that may be a key, or the start of one. -/
def takeKeyable (lexing : Lexing) (scan : Cursor → Except Fault (Token × Cursor)) :
    Except Fault Lexing := do
  let lexing ← lexing.rememberKey
  let (token, cursor) ← scan lexing.cursor
  return ((lexing.allowKey false).move cursor).push token

def takeDirective (lexing : Lexing) : Except Fault Lexing := do
  let lexing ← (lexing.unwind (-1)).forgetKey
  let (token, cursor) ← directive lexing.cursor
  return ((lexing.allowKey false).move cursor).push token

def takeDocumentMark (lexing : Lexing) (token : Token) : Except Fault Lexing := do
  let lexing ← (lexing.unwind (-1)).forgetKey
  return ((lexing.allowKey false).move (lexing.cursor.skip 3)).push token

def openFlow (lexing : Lexing) (token : Token) : Except Fault Lexing := do
  let lexing ← lexing.rememberKey
  return (({ lexing with flow := lexing.flow + 1 }).allowKey true).takeSign token

/-- Close a bracket; without an open one the depth stays as it is. -/
def closeFlow (lexing : Lexing) (token : Token) : Except Fault Lexing := do
  let lexing ← lexing.forgetKey
  return (({ lexing with flow := lexing.flow - 1 }).allowKey false).takeSign token

def takeSeparator (lexing : Lexing) : Except Fault Lexing := do
  let lexing ← (lexing.allowKey true).forgetKey
  return lexing.takeSign .separator

def takeEntry (lexing : Lexing) : Except Fault Lexing := do
  let lexing ← lexing.deepenHere .blockSequence .misplacedEntry
  let lexing ← (lexing.allowKey true).forgetKey
  return lexing.takeSign .entry

def takeKey (lexing : Lexing) : Except Fault Lexing := do
  let lexing ← lexing.deepenHere .blockMapping .misplacedKey
  let lexing ← (lexing.allowKey lexing.inBlock).forgetKey
  return lexing.takeSign .key

def takeValue (lexing : Lexing) : Except Fault Lexing := do
  match lexing.keys.lookup lexing.flow with
  | some place =>
    let lexing := { lexing with keys := lexing.keys.filter (·.1 ≠ lexing.flow) }
    let lexing := match if lexing.inBlock then lexing.deepen place.column else none with
      | some deeper => deeper.insert place.position [.blockMapping, .key]
      | none => lexing.insert place.position [.key]
    return (lexing.allowKey false).takeSign .value
  | none =>
    let lexing ← lexing.deepenHere .blockMapping .misplacedValue
    let lexing ← (lexing.allowKey lexing.inBlock).forgetKey
    return lexing.takeSign .value

def takeBlockScalar (lexing : Lexing) (folded : Bool) : Except Fault Lexing := do
  let lexing ← (lexing.allowKey true).forgetKey
  let (text, cursor) ← blockScalar folded lexing.indent lexing.cursor
  return (lexing.move cursor).push (.scalar text false)

def takePlain (lexing : Lexing) : Except Fault Lexing := do
  let lexing ← lexing.rememberKey
  let (text, broken, cursor) :=
    plainScalar (!lexing.inBlock) (lexing.indent + 1).toNat lexing.cursor
  return ((lexing.allowKey broken).move cursor).push (.scalar text true)

/-- Signs that no plain scalar starts with. -/
def isIndicator (c : Char) : Bool :=
  ['-', '?', ':', ',', '[', ']', '\x7b', '\x7d', '#', '&', '*', '!', '|', '>', '\'', '"', '%', '@',
    '`'].contains c

/-- Whether a plain scalar starts here; three of the signs may start one if a word follows. -/
def startsPlain (lexing : Lexing) (c : Char) : Bool :=
  (!endsWord (some c) && !isIndicator c) ||
    (!endsWord (lexing.cursor.peekAt 1) &&
      (c = '-' || (lexing.inBlock && (c = '?' || c = ':'))))

/-- Take the token that starts with `c`. -/
def takeToken (lexing : Lexing) (c : Char) : Except Fault Lexing :=
  let cursor := lexing.cursor
  let spaced := endsWord (cursor.peekAt 1)
  if c = '%' ∧ cursor.column = 0 then takeDirective lexing
  else if c = '-' ∧ cursor.column = 0 ∧ cursor.atDocumentMark then
    takeDocumentMark lexing .documentStart
  else if c = '.' ∧ cursor.column = 0 ∧ cursor.atDocumentMark then
    takeDocumentMark lexing .documentEnd
  else if c = '[' then openFlow lexing .flowSequence
  else if c = '\x7b' then openFlow lexing .flowMapping
  else if c = ']' then closeFlow lexing .flowSequenceEnd
  else if c = '\x7d' then closeFlow lexing .flowMappingEnd
  else if c = ',' then takeSeparator lexing
  else if c = '-' ∧ spaced then takeEntry lexing
  else if c = '?' ∧ (!lexing.inBlock ∨ spaced) then takeKey lexing
  else if c = ':' ∧ (!lexing.inBlock ∨ spaced) then takeValue lexing
  else if c = '*' then
    takeKeyable lexing fun cursor =>
      (anchorName cursor).map fun (name, after) => (.reference name, after)
  else if c = '&' then
    takeKeyable lexing fun cursor =>
      (anchorName cursor).map fun (name, after) => (.anchor name, after)
  else if c = '!' then takeKeyable lexing tagToken
  else if c = '|' ∧ lexing.inBlock then takeBlockScalar lexing false
  else if c = '>' ∧ lexing.inBlock then takeBlockScalar lexing true
  else if c = '\'' ∨ c = '"' then
    takeKeyable lexing fun cursor =>
      (quotedScalar (c = '"') cursor).map fun (text, after) => (.scalar text false, after)
  else if startsPlain lexing c then takePlain lexing
  else lexing.fail .badStart

/-- Take the next token, and tell whether one was left. -/
def takeNext (lexing : Lexing) : Except Fault (Bool × Lexing) := do
  let lexing := toNextToken (lexing.cursor.left + 1) lexing
  let lexing ← lexing.forgetStale
  let lexing := lexing.unwind lexing.cursor.column
  match lexing.cursor.peek with
  | none => return (false, ← (lexing.unwind (-1)).forgetKey)
  | some c => return (true, ← takeToken lexing c)

/-- The tokens of a text, and the fault that hides those after them. -/
structure Told where
  tokens : List Token
  fault : Option Fault
  deriving DecidableEq, Repr

/-- The tokens that no key token can come before any more. -/
def Lexing.settled (lexing : Lexing) : List Token :=
  let possible := lexing.keys.filter fun entry => !isStale lexing.cursor entry.2
  lexing.before (possible.foldl (fun least entry => min least entry.2.position) lexing.count)

/-- Take tokens up to the end of the text. -/
def takeTokens : Nat → Lexing → Told
  | 0, lexing => ⟨lexing.taken.reverse, none⟩
  | fuel + 1, lexing =>
    match takeNext lexing with
    | .error fault => ⟨lexing.settled, some fault⟩
    | .ok (false, ended) => ⟨ended.taken.reverse, none⟩
    | .ok (true, further) => takeTokens fuel further

/-- Characters that may stand in a document. -/
def isPrintable (c : Char) : Bool :=
  c = '\t' || c = '\n' || c = '\r' || (decide (' ' ≤ c) && decide (c ≤ '~')) || c = '\u0085' ||
    (decide ('\u00a0' ≤ c) && decide (c ≤ '\ufffd')) || decide (0x10000 ≤ c.toNat)

/-- The tokens of a text; a byte order mark at its start is skipped. -/
def tokensOf (text : List Char) : Told :=
  if !text.all isPrintable then ⟨[], some (.malformed .unprintable 0)⟩
  else
    let start := Lexing.start text
    let start :=
      if start.cursor.peek = some '\uFEFF' then start.move start.cursor.step else start
    takeTokens (text.length + 1) start

end SpecLint.Yaml
