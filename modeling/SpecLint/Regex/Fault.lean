import SpecLint.Data.Rendered
import SpecLint.Regex.Basic

/-!
# Malformed patterns

A pattern that cannot be read is refused with a cause and, in most cases, the position of the
character at fault. In a pattern of several lines the line and column are told as well.
-/
namespace SpecLint.Regex

open SpecLint.Data

inductive Cause where
  | trailingBackslash
  | badEscape (written : String)
  | incompleteEscape (written : String)
  | octalTooLarge (written : String)
  | missingBrace
  | unknownCharacterName (name : String)
  | unclosedSet
  | reversedRange (low high : String)
  | nothingToRepeat
  | repeatedRepeat
  | reversedCounts
  /-- A repetition count beyond every limit. -/
  | hugeCount
  | unclosedGroup
  | unclosedComment
  | unopenedGroup
  | endOfPattern
  | unknownExtension (written : String)
  | missingName (what : String)
  | unclosedName (closing : Char)
  | badGroupName (name : String)
  | unknownGroupName (name : String)
  | repeatedGroupName (name : String) (group earlier : Nat)
  | badGroupNumber
  | openGroup
  | unknownGroup (group : Nat)
  | groupOfSameLookBehind
  | tooManyBranches
  | lateFlags
  | unknownFlag
  | missingFlag
  | missingColon
  | missingFlagEnd
  | localeFlag
  | conflictingTypes
  /-- Flags for the whole pattern, set one by one, that exclude each other. -/
  | mixedTypes
  | typeTurnedOff
  | flagOnAndOff
  | wholeFlagOn
  | wholeFlagOff
  | openLookBehind
  /-- A repetition where none may occur. -/
  | refusedLoop (greed : Greed)
  deriving DecidableEq, Repr

/-- How messages call repetitions. -/
def Greed.title : Greed → String
  | greedy => "MAX_REPEAT"
  | lazy => "MIN_REPEAT"
  | possessive => "POSSESSIVE_REPEAT"

def Cause.message : Cause → String
  | trailingBackslash => "bad escape (end of pattern)"
  | badEscape written => "bad escape " ++ written
  | incompleteEscape written => "incomplete escape " ++ written
  | octalTooLarge written => "octal escape value " ++ written ++ " outside of range 0-0o377"
  | missingBrace => "missing \x7b"
  | unknownCharacterName name =>
    "undefined character name " ++ String.ofList (Text.quoted name.toList)
  | unclosedSet => "unterminated character set"
  | reversedRange low high => "bad character range " ++ low ++ "-" ++ high
  | nothingToRepeat => "nothing to repeat"
  | repeatedRepeat => "multiple repeat"
  | reversedCounts => "min repeat greater than max repeat"
  | hugeCount => "the repetition number is too large"
  | unclosedGroup => "missing ), unterminated subpattern"
  | unclosedComment => "missing ), unterminated comment"
  | unopenedGroup => "unbalanced parenthesis"
  | endOfPattern => "unexpected end of pattern"
  | unknownExtension written => "unknown extension ?" ++ written
  | missingName what => "missing " ++ what
  | unclosedName closing => "missing " ++ String.ofList [closing] ++ ", unterminated name"
  | badGroupName name =>
    "bad character in group name " ++ String.ofList (Text.quoted name.toList)
  | unknownGroupName name => "unknown group name " ++ String.ofList (Text.quoted name.toList)
  | repeatedGroupName name index earlier =>
    "redefinition of group name " ++ String.ofList (Text.quoted name.toList) ++ " as group " ++
      String.ofList (natText index) ++ "; was group " ++ String.ofList (natText earlier)
  | badGroupNumber => "bad group number"
  | openGroup => "cannot refer to an open group"
  | unknownGroup index => "invalid group reference " ++ String.ofList (natText index)
  | groupOfSameLookBehind => "cannot refer to group defined in the same lookbehind subpattern"
  | tooManyBranches => "conditional backref with more than two branches"
  | lateFlags => "global flags not at the start of the expression"
  | unknownFlag => "unknown flag"
  | missingFlag => "missing flag"
  | missingColon => "missing :"
  | missingFlagEnd => "missing -, : or )"
  | localeFlag => "bad inline flags: cannot use 'L' flag with a str pattern"
  | conflictingTypes => "bad inline flags: flags 'a', 'u' and 'L' are incompatible"
  | mixedTypes => "ASCII and UNICODE flags are incompatible"
  | typeTurnedOff => "bad inline flags: cannot turn off flags 'a', 'u' and 'L'"
  | flagOnAndOff => "bad inline flags: flag turned on and off"
  | wholeFlagOn => "bad inline flags: cannot turn on global flag"
  | wholeFlagOff => "bad inline flags: cannot turn off global flag"
  | openLookBehind => "look-behind requires fixed-width pattern"
  | refusedLoop greed => "internal: unsupported template operator " ++ greed.title

structure Fault where
  cause : Cause
  position : Option Nat
  deriving DecidableEq, Repr

/-- The line and column of a position, both counted from one. -/
def lineAndColumn (pattern : List Char) (position : Nat) : Nat × Nat :=
  let before := pattern.take position
  (before.count '\n' + 1, (before.reverse.takeWhile (· ≠ '\n')).length + 1)

def Fault.message (pattern : List Char) (fault : Fault) : String :=
  match fault.position with
  | none => fault.cause.message
  | some position =>
    let told := fault.cause.message ++ " at position " ++ String.ofList (natText position)
    if '\n' ∈ pattern then
      let (line, column) := lineAndColumn pattern position
      told ++ " (line " ++ String.ofList (natText line) ++ ", column " ++
        String.ofList (natText column) ++ ")"
    else told

end SpecLint.Regex
