import SpecLint.Regex.Basic
import SpecLint.Regex.Fault
import SpecLint.Number.Written
import SpecLint.Text.CharacterName
import SpecLint.Text.Identifier

/-!
# Reading patterns

A pattern is read from left to right, one token at a time; an escaped character is one token. The
reader looks one token ahead, so a backslash at the end is refused as soon as the token before it is
taken. Every step takes a token, so the length of the pattern bounds the depth of the recursion.
-/
namespace SpecLint.Regex

inductive Token where
  | plain (c : Char)
  | escaped (c : Char)
  deriving DecidableEq, Repr

/-- The characters of a token. -/
def Token.written : Token → List Char
  | plain c => [c]
  | escaped c => ['\\', c]

structure Flags where
  ignoreCase : Bool := false
  everyLine : Bool := false
  anyLine : Bool := false
  verbose : Bool := false
  ascii : Bool := false
  unicode : Bool := false
  /-- Whether repetitions are refused. -/
  loopless : Bool := false
  deriving DecidableEq, Repr

/-- Which differences of case do not count. -/
def Flags.folding (flags : Flags) : Folding :=
  if !flags.ignoreCase then .exact else if flags.ascii then .ascii else .full

/-- What has been read so far. -/
structure Reading where
  rest : List Char
  position : Nat
  /-- The flags set for the whole pattern. -/
  flags : Flags
  /-- The widths of the groups in the order of their opening; an open group has none. -/
  groups : List (Option Width)
  names : List (String × Nat)
  /-- Inside a look-behind, the number of groups before it. -/
  outside : Option Nat
  /-- Groups that a choice depends on, with the position to blame. -/
  awaited : List (Nat × Nat)

abbrev Reader := StateT Reading (Except Fault)

/-- Refuse the pattern, blaming a place `back` characters before the next token. -/
def refuse {α : Type} (cause : Cause) (back : Nat) : Reader α := do
  throw ⟨cause, some ((← get).position - back)⟩

/-- Refuse the pattern, blaming the next token. -/
def refuseHere {α : Type} (cause : Cause) : Reader α := refuse cause 0

def peek : Reader (Option Token) := do
  match (← get).rest with
  | [] => return none
  | '\\' :: c :: _ => return some (.escaped c)
  | c :: _ => return some (.plain c)

/-- Go to another place; the token there must be complete. -/
def moveTo (rest : List Char) (position : Nat) : Reader Unit := do
  if rest = ['\\'] then throw ⟨.trailingBackslash, some position⟩
  modify ({ · with rest := rest, position := position })

/-- Take the next token. -/
def next : Reader (Option Token) := do
  let token ← peek
  let size := token.elim 0 fun token => token.written.length
  let state ← get
  moveTo (state.rest.drop size) (state.position + size)
  return token

/-- Take the next token if it is this character. -/
def accept (c : Char) : Reader Bool := do
  if (← peek) = some (.plain c) then
    let _ ← next
    return true
  else return false

/-- Take at most `count` characters that pass the test. -/
def takeSome (test : Char → Bool) : Nat → Reader (List Char)
  | 0 => return []
  | count + 1 => do
    match ← peek with
    | some (.plain c) =>
      if test c then
        let _ ← next
        return c :: (← takeSome test count)
      else return []
    | _ => return []

/-- The name up to a closing character, which is taken too. -/
def takeName (closing : Char) (what : String) : Nat → List Char → Reader (List Char)
  | 0, _ => refuseHere (.missingName what)
  | fuel + 1, name => do
    match ← next with
    | none =>
      if name = [] then refuseHere (.missingName what)
      else refuse (.unclosedName closing) name.length
    | some token =>
      if token = .plain closing then
        if name = [] then refuse (.missingName what) 1 else return name
      else takeName closing what fuel (name ++ token.written)

def nameUntil (closing : Char) (what : String) : Reader (List Char) := do
  takeName closing what ((← get).rest.length + 1) []

/-- Groups are called by identifiers. -/
def checkName (name : List Char) : Reader Unit := do
  if !Text.isIdentifier name then
    refuse (.badGroupName (String.ofList name)) (name.length + 1)

/-- What an escape or another leaf stands for. -/
inductive Leaf where
  | code (code : Nat)
  | category (kind : Category) (negated : Bool)
  | position (assertion : Regex)
  | reference (group : Nat)

/-- Escapes for control characters. -/
def controlEscape? (c : Char) : Option Nat :=
  [('a', 7), ('b', 8), ('f', 12), ('n', 10), ('r', 13), ('t', 9), ('v', 11), ('\\', 92)].lookup c

def categoryEscape? (c : Char) : Option Leaf :=
  [('d', Leaf.category .digit false), ('D', .category .digit true), ('s', .category .space false),
    ('S', .category .space true), ('w', .category .word false),
    ('W', .category .word true)].lookup c

def positionEscape? (ascii : Bool) (c : Char) : Option Regex :=
  [('A', Regex.textStart), ('b', .boundary ascii false), ('B', .boundary ascii true),
    ('Z', .textEnd)].lookup c

def isOctal (c : Char) : Bool := decide ('0' ≤ c) && decide (c ≤ '7')

def isAsciiLetter (c : Char) : Bool :=
  (decide ('a' ≤ c) && decide (c ≤ 'z')) || (decide ('A' ≤ c) && decide (c ≤ 'Z'))

def octalValue (digits : List Char) : Nat := digits.foldl (fun n c => n * 8 + (c.toNat - 48)) 0

def hexValue (digits : List Char) : Nat :=
  digits.foldl (fun n c => n * 16 + (Number.hexValue c).getD 0) 0

/-- An escape of exactly `width` hexadecimal digits. -/
def hexEscape (letter : Char) (width : Nat) : Reader Leaf := do
  let digits ← takeSome (fun c => (Number.hexValue c).isSome) width
  let written := '\\' :: letter :: digits
  if digits.length < width then
    refuse (.incompleteEscape (String.ofList written)) written.length
  else if hexValue digits < 0x110000 then return .code (hexValue digits)
  else refuse (.badEscape (String.ofList written)) written.length

/-- An escape by the name of a character. -/
def namedEscape : Reader Leaf := do
  if !(← accept '\x7b') then refuseHere .missingBrace
  else
    let name ← nameUntil '\x7d' "character name"
    match Text.characterNamed? name with
    | some c => return .code c.toNat
    | none => refuse (.unknownCharacterName (String.ofList name)) (name.length + 4)

/-- An escape that means the same inside and outside of sets, letters and digits excepted. -/
def plainEscape (c : Char) : Reader Leaf := do
  if isAsciiLetter c || Number.isDigit c then refuse (.badEscape (String.ofList ['\\', c])) 2
  else return .code c.toNat

def checkOctal (digits : List Char) : Reader Leaf := do
  if octalValue digits > 255 then
    refuse (.octalTooLarge (String.ofList ('\\' :: digits))) (digits.length + 1)
  else return .code (octalValue digits)

def setEscape (c : Char) : Reader Leaf := do
  match controlEscape? c, categoryEscape? c with
  | some code, _ => return .code code
  | none, some leaf => return leaf
  | none, none =>
    if c = 'x' then hexEscape c 2
    else if c = 'u' then hexEscape c 4
    else if c = 'U' then hexEscape c 8
    else if c = 'N' then namedEscape
    else if isOctal c then checkOctal (c :: (← takeSome isOctal 2))
    else plainEscape c

/-- A reference must name a group that is complete and, inside a look-behind, lies before it. -/
def checkOutside (number : Nat) : Reader Unit := do
  let state ← get
  match state.outside with
  | none => return
  | some bound =>
    if !(state.groups[number]?.elim false Option.isSome) then refuseHere .openGroup
    else if bound ≤ number then refuseHere .groupOfSameLookBehind

def referTo (digits : List Char) : Reader Leaf := do
  let number := Number.digitsValue digits
  let state ← get
  match state.groups[number]? with
  | none => refuse (.unknownGroup number) digits.length
  | some none => refuse .openGroup (digits.length + 1)
  | some (some _) =>
    checkOutside number
    return .reference number

/-- An escape of digits: an octal code of three digits, or else a reference. -/
def digitEscape (c : Char) : Reader Leaf := do
  match ← takeSome Number.isDigit 1 with
  | [d] =>
    if isOctal c && isOctal d then
      match ← takeSome isOctal 1 with
      | [e] => checkOctal [c, d, e]
      | _ => referTo [c, d]
    else referTo [c, d]
  | _ => referTo [c]

def escape (ascii : Bool) (c : Char) : Reader Leaf := do
  match categoryEscape? c, positionEscape? ascii c, controlEscape? c with
  | some leaf, _, _ => return leaf
  | none, some assertion, _ => return .position assertion
  | none, none, some code => return .code code
  | none, none, none =>
    if c = 'x' then hexEscape c 2
    else if c = 'u' then hexEscape c 4
    else if c = 'U' then hexEscape c 8
    else if c = 'N' then namedEscape
    else if c = '0' then return .code (octalValue (← takeSome isOctal 2))
    else if Number.isDigit c then digitEscape c
    else plainEscape c

/-- A leaf as a pattern. -/
def Leaf.toRegex (flags : Flags) : Leaf → Regex
  | code value => .literal flags.folding value
  | category kind negated => .oneOf false flags.folding [.category kind flags.ascii negated]
  | position assertion => assertion
  | reference number => .again flags.folding number

/-- A leaf as a set item. -/
def Leaf.toItem (flags : Flags) : Leaf → SetItem
  | code value => .letter value
  | category kind negated => .category kind flags.ascii negated
  | position _ | reference _ => .range 0 0

def setLeaf : Token → Reader Leaf
  | .plain c => return .code c.toNat
  | .escaped c => setEscape c

/-- The items of a set up to its closing bracket; `opened` is where the set starts. -/
def setItems (flags : Flags) (opened : Nat) : Nat → List SetItem → Reader (List SetItem)
  | 0, _ => refuseHere .unclosedSet
  | fuel + 1, items => do
    match ← next with
    | none => throw ⟨.unclosedSet, some opened⟩
    | some token =>
      if token = .plain ']' ∧ items ≠ [] then return items
      else
        let first ← setLeaf token
        if ← accept '-' then
          match ← next with
          | none => throw ⟨.unclosedSet, some opened⟩
          | some (.plain ']') => return items ++ [first.toItem flags, .letter 45]
          | some last =>
            let second ← setLeaf last
            let refused : Reader (List SetItem) :=
              refuse (.reversedRange (String.ofList token.written) (String.ofList last.written))
                (token.written.length + 1 + last.written.length)
            match first, second with
            | .code low, .code high =>
              if high < low then refused
              else setItems flags opened fuel (items ++ [.range low high])
            | _, _ => refused
        else setItems flags opened fuel (items ++ [first.toItem flags])

/-- The least and greatest count of a repetition in braces, if they are well formed. -/
def counts : Reader (Option (List Char × List Char)) := do
  let fuel := (← get).rest.length
  let low ← takeSome Number.isDigit fuel
  let high ← if ← accept ',' then takeSome Number.isDigit fuel else pure low
  if ← accept '\x7d' then return some (low, high) else return none

/-- Counts from here on are refused. -/
def countLimit : Nat := 4294967295

/-- Numbers of groups from here on are refused. -/
def groupLimit : Nat := 1073741823

/-- The counts that a repetition sign stands for; none if a brace stands for itself. -/
def repetition (sign : Char) : Reader (Option (Nat × Option Nat)) := do
  if sign = '?' then return some (0, some 1)
  else if sign = '*' then return some (0, none)
  else if sign = '+' then return some (1, none)
  else
    let start ← get
    if start.rest.head? = some '\x7d' then return none
    match ← counts with
    | none =>
      StateT.set start
      return none
    | some (low, high) =>
      let least := Number.digitsValue low
      let most := if high = [] then none else some (Number.digitsValue high)
      if least ≥ countLimit ∨ most.any (· ≥ countLimit) then throw ⟨.hugeCount, none⟩
      else if most.any (· < least) then throw ⟨.reversedCounts, some start.position⟩
      else return some (least, most)

/-- The flag of a letter. -/
def setFlag (flags : Flags) (on : Bool) : Char → Option Flags
  | 'i' => some { flags with ignoreCase := on }
  | 'm' => some { flags with everyLine := on }
  | 's' => some { flags with anyLine := on }
  | 'x' => some { flags with verbose := on }
  | 'a' => some { flags with ascii := on }
  | 'u' => some { flags with unicode := on }
  | 't' => some { flags with loopless := on }
  | 'L' => some flags
  | _ => none

def isFlag (c : Char) : Bool := ['i', 'm', 's', 'x', 'a', 'u', 't', 'L'].contains c

def isTypeFlag (c : Char) : Bool := ['a', 'u', 'L'].contains c

/-- Flags that hold for a whole pattern or not at all. -/
def isWholeFlag (c : Char) : Bool := c = 't'

def isLetter (token : Token) : Bool :=
  match token with
  | .plain c => Text.isLetter c
  | .escaped _ => false

/-- A letter that is no flag, or something else where a flag or a sign was expected. -/
def refuseFlag {α : Type} (token : Token) (otherwise : Cause) : Reader α :=
  refuse (if isLetter token then .unknownFlag else otherwise) token.written.length

/-- The flags before `:`, `-` or `)`, with that sign. -/
def flagsOn : Nat → List Char → Char → Reader (List Char × Char)
  | 0, _, _ => refuseHere .missingFlagEnd
  | fuel + 1, given, c => do
    if c = 'L' then refuseHere .localeFlag
    let given := given ++ [c]
    if isTypeFlag c ∧ given.any (fun other => isTypeFlag other && other != c) then
      refuseHere .conflictingTypes
    match ← next with
    | none => refuseHere .missingFlagEnd
    | some token =>
      match token with
      | .plain d =>
        if d = ')' ∨ d = '-' ∨ d = ':' then return (given, d)
        else if isFlag d then flagsOn fuel given d
        else refuseFlag token .missingFlagEnd
      | .escaped _ => refuseFlag token .missingFlagEnd

/-- The flags between `-` and `:`. -/
def flagsOff : Nat → List Char → Char → Reader (List Char)
  | 0, _, _ => refuseHere .missingColon
  | fuel + 1, given, c => do
    if isTypeFlag c then refuseHere .typeTurnedOff
    let given := given ++ [c]
    match ← next with
    | none => refuseHere .missingColon
    | some token =>
      match token with
      | .plain d =>
        if d = ':' then return given
        else if isFlag d then flagsOff fuel given d
        else refuseFlag token .missingColon
      | .escaped _ => refuseFlag token .missingColon

def withFlags (flags : Flags) (on : Bool) (letters : List Char) : Flags :=
  letters.foldl (fun flags c => (setFlag flags on c).getD flags) flags

/-- What follows `(?`: flags for the whole pattern, or for one group. -/
inductive FlagScope where
  | whole (letters : List Char)
  | group (on off : List Char)

def readFlags (first : Char) : Reader FlagScope := do
  let fuel := (← get).rest.length + 1
  let (on, sign) ← if first = '-' then pure ([], '-') else flagsOn fuel [] first
  if sign = ')' then return .whole on
  else if on.any isWholeFlag then refuse .wholeFlagOn 1
  else if sign = ':' then return .group on []
  else
    match ← next with
    | none => refuseHere .missingFlag
    | some token =>
      match token with
      | .plain c =>
        if isFlag c then
          let off ← flagsOff fuel [] c
          if off.any isWholeFlag then refuse .wholeFlagOff 1
          else if on.any off.contains then refuse .flagOnAndOff 1
          else return .group on off
        else refuseFlag token .missingFlag
      | .escaped _ => refuseFlag token .missingFlag

/-- The flags inside a group; choosing a kind of character classes drops the other. -/
def FlagScope.inside (flags : Flags) (on off : List Char) : Flags :=
  let base := if on.any isTypeFlag then { flags with ascii := false, unicode := false } else flags
  withFlags (withFlags base true on) false off

/-- Open a group and give its number. -/
def openGroup (name : Option (List Char)) : Reader Nat := do
  let state ← get
  let index := state.groups.length
  match name with
  | none => StateT.set { state with groups := state.groups ++ [none] }
  | some name =>
    let written := String.ofList name
    match state.names.lookup written with
    | some earlier => refuse (.repeatedGroupName written index earlier) (name.length + 1)
    | none =>
      StateT.set { state with
        groups := state.groups ++ [none], names := (written, index) :: state.names }
  return index

/-- The widths of the closed groups. -/
def Reading.width (state : Reading) (number : Nat) : Width :=
  (state.groups[number]?.getD none).getD .zero

def closeGroup (index : Nat) (body : Regex) : Reader Unit :=
  modify fun state =>
    { state with groups := state.groups.set index (some (body.width state.width)) }

def expectClose (opened : Nat) : Reader Unit := do
  if !(← accept ')') then throw ⟨.unclosedGroup, some opened⟩

/-- Skip a comment inside a group. -/
def skipComment (opened : Nat) : Nat → Reader Unit
  | 0 => throw ⟨.unclosedComment, some opened⟩
  | fuel + 1 => do
    match ← next with
    | none => throw ⟨.unclosedComment, some opened⟩
    | some token => if token = .plain ')' then return else skipComment opened fuel

/-- Skip a comment up to the end of the line. -/
def skipLine : Nat → Reader Unit
  | 0 => return
  | fuel + 1 => do
    match ← next with
    | none => return
    | some token => if token = .plain '\n' then return else skipLine fuel

/-- The group that a choice depends on. -/
def choiceGroup : Reader Nat := do
  let name ← nameUntil ')' "group name"
  if Text.isIdentifier name then
    match (← get).names.lookup (String.ofList name) with
    | some number => return number
    | none => refuse (.unknownGroupName (String.ofList name)) (name.length + 1)
  else match Number.readWhole? 10 name with
    | some (.ofNat number) =>
      if number = 0 then refuse .badGroupNumber (name.length + 1)
      else if number ≥ groupLimit then refuse (.unknownGroup number) (name.length + 1)
      else
        modify fun state => { state with
          awaited := if (state.awaited.lookup number).isSome then state.awaited
            else state.awaited ++ [(number, state.position - name.length - 1)] }
        return number
    | _ => refuse (.badGroupName (String.ofList name)) (name.length + 1)

/-- The group that a named reference means. -/
def namedReference : Reader Nat := do
  let name ← nameUntil ')' "group name"
  checkName name
  let state ← get
  match state.names.lookup (String.ofList name) with
  | none => refuse (.unknownGroupName (String.ofList name)) (name.length + 1)
  | some number =>
    if !(state.groups[number]?.elim false Option.isSome) then refuse .openGroup (name.length + 1)
    checkOutside number
    return number

/-- Add a repetition to the last of the items, which are listed latest first. -/
def repeatLast (started : Nat) (least : Nat) (most : Option Nat) (items : List Regex) :
    Reader (List Regex) := do
  match items with
  | [] => throw ⟨.nothingToRepeat, some started⟩
  | item :: before =>
    if item.isPosition then throw ⟨.nothingToRepeat, some started⟩
    else if item.isLoop then throw ⟨.repeatedRepeat, some started⟩
    else
      if ← accept '?' then return .loop least most .lazy item :: before
      else if ← accept '+' then return .loop least most .possessive item :: before
      else return .loop least most .greedy item :: before

/-- What a parenthesis with a question mark stands for. -/
inductive Extension where
  | item (item : Regex)
  | comment
  | flags (letters : List Char)

mutual
/-- Alternatives up to a closing parenthesis or the end. -/
def alternatives : Nat → Flags → Bool → Reader Regex
  | 0, _, _ => refuseHere .endOfPattern
  | fuel + 1, flags, outermost => do
    let (first, flags) ← sequence fuel flags outermost []
    return .ofAlternatives (first :: (← moreAlternatives fuel flags))

/-- The alternatives behind the first. -/
def moreAlternatives : Nat → Flags → Reader (List Regex)
  | 0, _ => refuseHere .endOfPattern
  | fuel + 1, flags => do
    if ← accept '|' then
      let (item, _) ← sequence fuel flags false []
      return item :: (← moreAlternatives fuel flags)
    else return []

/-- Items up to a bar, a closing parenthesis or the end, with the flags then in force. Only at the
start of the whole pattern may flags be set for all of it. -/
def sequence : Nat → Flags → Bool → List Regex → Reader (Regex × Flags)
  | 0, _, _, _ => refuseHere .endOfPattern
  | fuel + 1, flags, first, items => do
    let start := (← get).position
    match ← peek with
    | none | some (.plain '|') | some (.plain ')') => return (.ofList items.reverse, flags)
    | some token =>
      let _ ← next
      match token with
      | .escaped c =>
        let leaf ← escape flags.ascii c
        sequence fuel flags first (leaf.toRegex flags :: items)
      | .plain c =>
        if flags.verbose ∧ Text.isAsciiBlank c then sequence fuel flags first items
        else if flags.verbose ∧ c = '#' then
          skipLine ((← get).rest.length + 1)
          sequence fuel flags first items
        else if c = '[' then
          let negated ← accept '^'
          let inside ← setItems flags start ((← get).rest.length + 1) []
          sequence fuel flags first (.oneOf negated flags.folding inside.eraseDups :: items)
        else if c = '*' ∨ c = '+' ∨ c = '?' ∨ c = '\x7b' then
          match ← repetition c with
          | none => sequence fuel flags first (.literal flags.folding c.toNat :: items)
          | some (least, most) =>
            sequence fuel flags first (← repeatLast start least most items)
        else if c = '.' then sequence fuel flags first (.any flags.anyLine :: items)
        else if c = '^' then sequence fuel flags first (.lineStart flags.everyLine :: items)
        else if c = '$' then sequence fuel flags first (.lineEnd flags.everyLine :: items)
        else if c = '(' then
          if ← accept '?' then
            match ← extension fuel flags start with
            | .item item => sequence fuel flags first (item :: items)
            | .comment => sequence fuel flags first items
            | .flags letters =>
              if first ∧ items = [] then
                let flags := withFlags flags true letters
                modify ({ · with flags := flags })
                sequence fuel flags first items
              else throw ⟨.lateFlags, some start⟩
          else
            let item ← captured fuel flags none start
            sequence fuel flags first (item :: items)
        else sequence fuel flags first (.literal flags.folding c.toNat :: items)

/-- A group that captures what it matches. -/
def captured : Nat → Flags → Option (List Char) → Nat → Reader Regex
  | 0, _, _, _ => refuseHere .endOfPattern
  | fuel + 1, flags, name, start => do
    let index ← openGroup name
    let body ← alternatives fuel flags false
    expectClose start
    closeGroup index body
    return .group (some index) body

/-- What follows `(?`. -/
def extension : Nat → Flags → Nat → Reader Extension
  | 0, _, _ => refuseHere .endOfPattern
  | fuel + 1, flags, start => do
    match ← next with
    | none => refuseHere .endOfPattern
    | some token =>
      match token with
      | .escaped _ =>
        refuse (.unknownExtension (String.ofList token.written)) (token.written.length + 1)
      | .plain c =>
        if c = 'P' then
          if ← accept '<' then
            let name ← nameUntil '>' "group name"
            checkName name
            return .item (← captured fuel flags (some name) start)
          else if ← accept '=' then
            return .item (.again flags.folding (← namedReference))
          else
            match ← next with
            | none => refuseHere .endOfPattern
            | some other =>
              refuse (.unknownExtension ("P" ++ String.ofList other.written))
                (other.written.length + 2)
        else if c = ':' then return .item (← grouped fuel flags start (.group none))
        else if c = '>' then return .item (← grouped fuel flags start .atomic)
        else if c = '#' then
          skipComment start ((← get).rest.length + 1)
          return .comment
        else if c = '=' then return .item (← grouped fuel flags start (.ahead false))
        else if c = '!' then return .item (← grouped fuel flags start (.ahead true))
        else if c = '<' then
          match ← next with
          | none => refuseHere .endOfPattern
          | some other =>
            if other = .plain '=' ∨ other = .plain '!' then
              let state ← get
              StateT.set { state with outside := state.outside.or (some state.groups.length) }
              let body ← alternatives fuel flags false
              modify ({ · with outside := state.outside })
              expectClose start
              return .item (.behind (other = .plain '!') body)
            else
              refuse (.unknownExtension ("<" ++ String.ofList other.written))
                (other.written.length + 2)
        else if c = '(' then
          let number ← choiceGroup
          checkOutside number
          let (yes, _) ← sequence fuel flags false []
          let no ← if ← accept '|' then
              let (no, _) ← sequence fuel flags false []
              if (← peek) = some (.plain '|') then refuseHere .tooManyBranches
              pure no
            else pure .empty
          expectClose start
          return .item (.choose number yes no)
        else if isFlag c ∨ c = '-' then
          match ← readFlags c with
          | .whole letters => return .flags letters
          | .group on off =>
            return .item (← grouped fuel (FlagScope.inside flags on off) start (.group none))
        else refuse (.unknownExtension (String.ofList [c])) 2

/-- A group that captures nothing. -/
def grouped : Nat → Flags → Nat → (Regex → Regex) → Reader Regex
  | 0, _, _, _ => refuseHere .endOfPattern
  | fuel + 1, flags, start, make => do
    let body ← alternatives fuel flags false
    expectClose start
    return make body
end

/-- The first part of a pattern that reads well but is refused all the same: a look-behind of
varying width, or a repetition where none may occur. -/
def refused? (loopless : Bool) (groups : Nat → Width) : Regex → Option Cause
  | .behind _ body =>
    if (body.width groups).most = some (body.width groups).least then
      refused? loopless groups body
    else some .openLookBehind
  | .loop _ _ greed body =>
    if loopless then some (.refusedLoop greed) else refused? loopless groups body
  | .seq first second | .alt first second | .choose _ first second =>
    (refused? loopless groups first).or (refused? loopless groups second)
  | .group _ body | .atomic body | .ahead _ body => refused? loopless groups body
  | _ => none

/-- The set at the start of a pattern, if there is one in which case does not matter. -/
def leadingSet? : Regex → Option (Bool × List SetItem)
  | .oneOf negated folding items =>
    let caseless (code : Nat) : Bool := (folding.sources (Char.ofNat code)).all (· == code)
    let plain : SetItem → Bool
      | .letter code => caseless code
      | .range low high =>
        decide (high < planeEnd) && (List.range' low (high + 1 - low)).all caseless
      | .category .. => true
    if folding = .exact ∨ items.all plain then some (negated, items) else none
  | .seq first _ => leadingSet? first
  | .group _ body => leadingSet? body
  | _ => none

/-- An item under the kind of character classes that holds for the whole pattern. -/
def SetItem.under (ascii : Bool) : SetItem → SetItem
  | .category kind _ negated => .category kind ascii negated
  | item => item

/-- A match is only tried where the first character belongs to the leading set as the flags for the
whole pattern, not those of a group, understand it. -/
def hinted (ascii : Bool) (groups : Nat → Width) (body : Regex) : Regex :=
  match leadingSet? body with
  | some (negated, items) =>
    let wanted := items.map (SetItem.under ascii)
    if wanted = items ∨ (body.width groups).least = 0 then body
    else .seq (.ahead false (.oneOf negated .exact wanted)) body
  | none => body

/-- Read a pattern. -/
def read (written : List Char) : Except Fault Regex := do
  let start : Reading := ⟨[], 0, {}, [some .zero], [], none, []⟩
  let reader : Reader Regex := do
    moveTo written 0
    let body ← alternatives (4 * written.length + 4) {} true
    let whole := (← get).flags
    if whole.ascii ∧ whole.unicode then throw ⟨.mixedTypes, none⟩
    if (← peek).isSome then refuseHere .unopenedGroup
    for (number, position) in (← get).awaited do
      if (← get).groups.length ≤ number then throw ⟨.unknownGroup number, some position⟩
    return body
  let (body, state) ← reader.run start
  match refused? state.flags.loopless state.width body with
  | some cause => throw ⟨cause, none⟩
  | none => return hinted state.flags.ascii state.width body

end SpecLint.Regex
