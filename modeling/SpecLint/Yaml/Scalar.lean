import SpecLint.Yaml.Cursor
import SpecLint.Number.Digits

/-!
# Scalars as written

A scalar is written plain, between single or double quotes, or as a block below a header. Over
several lines, one line end reads as a space and further ones as themselves. Single quotes are
doubled inside single quotes; double quotes know escapes.
-/
namespace SpecLint.Yaml

/-! ### Quoted scalars -/

/-- Escapes of one character. -/
def shortEscapes : List (Char × Char) := [
  ('0', '\x00'), ('a', '\x07'), ('b', '\x08'), ('t', '\t'), ('\t', '\t'), ('n', '\n'),
  ('v', '\x0b'),
  ('f', '\x0c'), ('r', '\r'), ('e', '\x1b'), (' ', ' '), ('"', '"'), ('\\', '\\'), ('/', '/'),
  ('N', '\u0085'), ('_', '\u00a0'), ('L', '\u2028'), ('P', '\u2029')]

/-- Escapes by code, with their number of digits. -/
def codeEscapes : List (Char × Nat) := [('x', 2), ('u', 4), ('U', 8)]

/-- The code that so many hexadecimal digits write, and what follows. -/
def codeAt (width : Nat) (cursor : Cursor) : Except Fault (Nat × Cursor) :=
  let digits := cursor.rest.take width
  if digits.length < width ∨ !digits.all (Number.isDigitIn 16) then cursor.fail .badEscape
  else .ok (Number.valueIn 16 digits, cursor.skip width)

/-- The character of a code. -/
def charOfCode (code : Nat) : Except Fault Char :=
  if code < 0x110000 then .ok (Char.ofNat code)
  else .error (.unfit (if code < 0x80000000 then .noSuchValue else .outOfRange))

/-- The second unit of a character that is written as two. -/
def secondUnit? (cursor : Cursor) : Option (Nat × Cursor) := do
  let letter ← if cursor.peek = some '\\' then cursor.peekAt 1 else none
  let width ← codeEscapes.lookup letter
  let (low, cursor) ← (codeAt width (cursor.skip 2)).toOption
  if 0xDC00 ≤ low ∧ low < 0xE000 then some (low, cursor) else none

/-- The line ends inside quotes, each line's indentation left out. -/
def quotedBreaks : Nat → Cursor → Except Fault (List Char × Cursor)
  | 0, cursor => .ok ([], cursor)
  | fuel + 1, cursor =>
    if cursor.atDocumentMark then cursor.fail .documentInQuote
    else
      let cursor := cursor.skipWhile fun c => c = ' ' || c = '\t'
      if cursor.atBreak then do
        let (taken, cursor) := cursor.lineBreak
        let (others, cursor) ← quotedBreaks fuel cursor
        return (taken ++ others, cursor)
      else .ok ([], cursor)

/-- Blanks inside quotes, with line ends folded. -/
def quotedSpaces (fuel : Nat) (cursor : Cursor) : Except Fault (List Char × Cursor) :=
  let (blanks, cursor) := cursor.takeWhile fun c => c = ' ' || c = '\t'
  match cursor.peek with
  | none => cursor.fail .unclosedQuote
  | some c =>
    if isBreak c then do
      let (taken, cursor) := cursor.lineBreak
      let (others, cursor) ← quotedBreaks fuel cursor
      let folded := if taken ≠ ['\n'] then taken else if others = [] then [' '] else []
      return (folded ++ others, cursor)
    else .ok (blanks, cursor)

/-- What an escape stands for, after its backslash. A character past the first plane may be written
as two units. -/
def quotedEscape (fuel : Nat) (cursor : Cursor) : Except Fault (List Char × Cursor) :=
  match cursor.peek with
  | none => cursor.fail .badEscape
  | some c =>
    match shortEscapes.lookup c, codeEscapes.lookup c with
    | some meant, _ => .ok ([meant], cursor.step)
    | none, some width => do
      let (code, cursor) ← codeAt width cursor.step
      let second := if 0xD800 ≤ code ∧ code < 0xDC00 then secondUnit? cursor else none
      match second with
      | some (low, after) =>
        return ([← charOfCode (0x10000 + (code - 0xD800) * 0x400 + (low - 0xDC00))], after)
      | none => return ([← charOfCode code], cursor)
    | none, none =>
      if isBreak c then quotedBreaks fuel cursor.lineBreak.2 else cursor.fail .badEscape

/-- A character inside quotes that is neither blank nor special. -/
def isQuotedPlain (c : Char) : Bool :=
  !(c = '\'' || c = '"' || c = '\\' || c = ' ' || c = '\t' || isBreak c)

/-- The inside of a quoted scalar, up to its closing quote. -/
def quotedInside (double : Bool) : Nat → Cursor → Except Fault (List Char × Cursor)
  | 0, cursor => cursor.fail .unclosedQuote
  | fuel + 1, cursor =>
    let continue' (front : List Char) (cursor : Cursor) : Except Fault (List Char × Cursor) := do
      let (others, cursor) ← quotedInside double fuel cursor
      return (front ++ others, cursor)
    match cursor.peek with
    | none => cursor.fail .unclosedQuote
    | some c =>
      if isQuotedPlain c then
        let (taken, cursor) := cursor.takeWhile isQuotedPlain
        continue' taken cursor
      else if !double ∧ c = '\'' ∧ cursor.peekAt 1 = some '\'' then continue' ['\''] (cursor.skip 2)
      else if (double ∧ c = '\'') ∨ (!double ∧ (c = '"' ∨ c = '\\')) then continue' [c] cursor.step
      else if c = '\\' then do
        let (meant, cursor) ← quotedEscape fuel cursor.step
        continue' meant cursor
      else if c = ' ' ∨ c = '\t' ∨ isBreak c then do
        let (blanks, cursor) ← quotedSpaces fuel cursor
        continue' blanks cursor
      else .ok ([], cursor.step)

/-- A quoted scalar, from its opening quote on. -/
def quotedScalar (double : Bool) (cursor : Cursor) : Except Fault (String × Cursor) := do
  let (inside, cursor) ← quotedInside double (cursor.left + 1) cursor.step
  return (String.ofList inside, cursor)

/-! ### Plain scalars -/

/-- Signs that end a plain scalar inside brackets. -/
def isFlowSign (c : Char) : Bool :=
  c = ',' || c = '[' || c = ']' || c = '\x7b' || c = '\x7d'

/-- A word of a plain scalar. -/
def plainWord (flow : Bool) : List Char → List Char
  | [] => []
  | c :: rest =>
    if endsWord (some c) then []
    else if c = ':' ∧ (endsWord rest.head? ∨ (flow ∧ rest.head?.any isFlowSign)) then []
    else if flow ∧ (isFlowSign c ∨ c = '?') then []
    else c :: plainWord flow rest

/-- The line ends between two words; none if a document ends there. -/
def plainBreaks : Nat → Cursor → Option (List Char) × Cursor
  | 0, cursor => (some [], cursor)
  | fuel + 1, cursor =>
    match cursor.peek with
    | some ' ' => plainBreaks fuel cursor.step
    | some c =>
      if isBreak c then
        let (taken, cursor) := cursor.lineBreak
        if cursor.atDocumentMark then (none, cursor)
        else
          let (others, cursor) := plainBreaks fuel cursor
          (others.map (taken ++ ·), cursor)
      else (some [], cursor)
    | none => (some [], cursor)

/-- The space between two words, with line ends folded, and whether there were any; none if nothing
can follow. -/
def plainSpaces (cursor : Cursor) : Option (List Char) × Bool × Cursor :=
  let (blanks, cursor) := cursor.takeWhile (· = ' ')
  if cursor.atBreak then
    let (taken, cursor) := cursor.lineBreak
    if cursor.atDocumentMark then (none, true, cursor)
    else
      match plainBreaks (cursor.left + 1) cursor with
      | (none, cursor) => (none, true, cursor)
      | (some others, cursor) =>
        let folded := if taken ≠ ['\n'] then taken else if others = [] then [' '] else []
        (some (folded ++ others), true, cursor)
  else (if blanks = [] then none else some blanks, false, cursor)

/-- The words of a plain scalar whose lines are indented by at least `indent`, and whether it
reached beyond a line end. -/
def plainWords (flow : Bool) (indent : Nat) : Nat → List Char → Bool → Cursor →
    List Char × Bool × Cursor
  | 0, _, broken, cursor => ([], broken, cursor)
  | fuel + 1, spaces, broken, cursor =>
    if cursor.peek = some '#' then ([], broken, cursor)
    else
      let word := plainWord flow cursor.rest
      if word = [] then ([], broken, cursor)
      else
        match plainSpaces (cursor.skip word.length) with
        | (none, crossed, cursor) => (spaces ++ word, crossed, cursor)
        | (some next, crossed, cursor) =>
          if cursor.peek = some '#' ∨ (!flow ∧ cursor.column < indent) then
            (spaces ++ word, crossed, cursor)
          else
            let (others, crossed, cursor) := plainWords flow indent fuel next crossed cursor
            (spaces ++ word ++ others, crossed, cursor)

/-- A plain scalar, and whether a key may follow it on a new line. -/
def plainScalar (flow : Bool) (indent : Nat) (cursor : Cursor) : String × Bool × Cursor :=
  let (words, broken, after) := plainWords flow indent (cursor.left + 1) [] false cursor
  (String.ofList words, broken, after)

/-! ### Block scalars -/

/-- What happens to the line ends at the end of a block. -/
inductive Chomping where
  | clip
  | strip
  | keep
  deriving DecidableEq, Repr

def chompingOf? (c : Option Char) : Option Chomping :=
  if c = some '+' then some .keep else if c = some '-' then some .strip else none

/-- A digit of a block header, which must not be zero. -/
def indentDigit (cursor : Cursor) : Except Fault (Option Nat × Cursor) :=
  match cursor.peek.bind Number.digitValue with
  | none => .ok (none, cursor)
  | some 0 => cursor.fail .badBlockHeader
  | some n => .ok (some n, cursor.step)

/-- The header of a block: chomping and indentation in any order. -/
def blockHeader (cursor : Cursor) : Except Fault ((Chomping × Option Nat) × Cursor) := do
  match chompingOf? cursor.peek with
  | some chomping =>
    let (indent, cursor) ← indentDigit cursor.step
    finish chomping indent cursor
  | none =>
    let (indent, cursor) ← indentDigit cursor
    match indent, chompingOf? cursor.peek with
    | some _, some chomping => finish chomping indent cursor.step
    | _, _ => finish .clip indent cursor
where
  /-- The rest of the header line holds at most a comment. -/
  finish (chomping : Chomping) (indent : Option Nat) (cursor : Cursor) :
      Except Fault ((Chomping × Option Nat) × Cursor) :=
    if !endsLineWord cursor.peek then cursor.fail .badBlockHeader
    else
      let cursor := cursor.skipSpaces.skipComment
      if cursor.peek.isSome ∧ !cursor.atBreak then cursor.fail .badBlockHeader
      else .ok ((chomping, indent), cursor.lineBreak.2)

/-- Leading line ends of a block and the deepest indentation before its first line. -/
def blockIndentation : Nat → Nat → Cursor → List Char × Nat × Cursor
  | 0, deepest, cursor => ([], deepest, cursor)
  | fuel + 1, deepest, cursor =>
    match cursor.peek with
    | some ' ' =>
      let cursor := cursor.step
      blockIndentation fuel (max deepest cursor.column) cursor
    | some c =>
      if isBreak c then
        let (taken, cursor) := cursor.lineBreak
        let (others, deepest, cursor) := blockIndentation fuel deepest cursor
        (taken ++ others, deepest, cursor)
      else ([], deepest, cursor)
    | none => ([], deepest, cursor)

/-- Skip the indentation of a line. -/
def skipIndent (indent : Nat) (cursor : Cursor) : Cursor :=
  let spaces := (cursor.rest.takeWhile (· = ' ')).length
  cursor.skip (min spaces (indent - cursor.column))

/-- The empty lines before the next line of a block. -/
def blockBreaks (indent : Nat) : Nat → Cursor → List Char × Cursor
  | 0, cursor => ([], cursor)
  | fuel + 1, cursor =>
    let cursor := skipIndent indent cursor
    if cursor.atBreak then
      let (taken, cursor) := cursor.lineBreak
      let (others, cursor) := blockBreaks indent fuel cursor
      (taken ++ others, cursor)
    else ([], cursor)

def isSpaceOrTab (c : Option Char) : Bool := c = some ' ' || c = some '\t'

/-- The lines of a block, with the line end and the empty lines that follow the last. -/
def blockLines (folded : Bool) (indent : Nat) : Nat → List Char → Cursor →
    List Char × List Char × List Char × Cursor
  | 0, breaks, cursor => ([], [], breaks, cursor)
  | fuel + 1, breaks, cursor =>
    let blankStart := isSpaceOrTab cursor.peek
    let (line, cursor) := cursor.takeWhile fun c => !isBreak c
    let (taken, cursor) := cursor.lineBreak
    let (further, cursor) := blockBreaks indent (cursor.left + 1) cursor
    if cursor.column = indent ∧ cursor.peek.isSome then
      let between :=
        if folded ∧ taken = ['\n'] ∧ !blankStart ∧ !isSpaceOrTab cursor.peek then
          if further = [] then [' '] else []
        else taken
      let (others, last, after, cursor) := blockLines folded indent fuel further cursor
      (breaks ++ line ++ between ++ others, last, after, cursor)
    else (breaks ++ line, taken, further, cursor)

/-- A block scalar in a collection indented by `outer`, from its sign on. -/
def blockScalar (folded : Bool) (outer : Int) (cursor : Cursor) :
    Except Fault (String × Cursor) := do
  let ((chomping, given), cursor) ← blockHeader cursor.step
  let least := max 1 (outer + 1).toNat
  let fuel := cursor.left + 1
  let (indent, breaks, cursor) := match given with
    | some n =>
      let indent := least + n - 1
      let (breaks, cursor) := blockBreaks indent fuel cursor
      (indent, breaks, cursor)
    | none =>
      let (breaks, deepest, cursor) := blockIndentation fuel 0 cursor
      (max least deepest, breaks, cursor)
  let (text, last, after, cursor) :=
    if cursor.column = indent ∧ cursor.peek.isSome then blockLines folded indent fuel breaks cursor
    else ([], [], breaks, cursor)
  let ending := match chomping with
    | .strip => []
    | .clip => last
    | .keep => last ++ after
  return (String.ofList (text ++ ending), cursor)

end SpecLint.Yaml
