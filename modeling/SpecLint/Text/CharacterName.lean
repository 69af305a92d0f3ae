import SpecLint.Number.Digits
import SpecLint.Text.LetterNames
import SpecLint.Text.Ranges
import SpecLint.Text.SymbolNames

/-!
# Characters by name

A pattern may call a character by its name. Names are listed, in runs; controls, which have none of
their own, go by the names of what they do. Ideographs are called by their code and syllables of
Hangul by their parts. Case matters for these two only.
-/
namespace SpecLint.Text

/-- Names beside the proper ones. -/
def otherNames : List (String × Nat) := [
  ("NULL", 0x0), ("NUL", 0x0), ("START OF HEADING", 0x1), ("SOH", 0x1), ("START OF TEXT", 0x2),
  ("STX", 0x2), ("END OF TEXT", 0x3), ("ETX", 0x3), ("END OF TRANSMISSION", 0x4), ("EOT", 0x4),
  ("ENQUIRY", 0x5), ("ENQ", 0x5), ("ACKNOWLEDGE", 0x6), ("ACK", 0x6), ("ALERT", 0x7), ("BEL", 0x7),
  ("BACKSPACE", 0x8), ("BS", 0x8), ("CHARACTER TABULATION", 0x9), ("HORIZONTAL TABULATION", 0x9),
  ("HT", 0x9), ("TAB", 0x9), ("LINE FEED", 0xA), ("NEW LINE", 0xA), ("END OF LINE", 0xA),
  ("LF", 0xA), ("NL", 0xA), ("EOL", 0xA), ("LINE TABULATION", 0xB), ("VERTICAL TABULATION", 0xB),
  ("VT", 0xB), ("FORM FEED", 0xC), ("FF", 0xC), ("CARRIAGE RETURN", 0xD), ("CR", 0xD),
  ("SHIFT OUT", 0xE), ("LOCKING-SHIFT ONE", 0xE), ("SO", 0xE), ("SHIFT IN", 0xF),
  ("LOCKING-SHIFT ZERO", 0xF), ("SI", 0xF), ("DATA LINK ESCAPE", 0x10), ("DLE", 0x10),
  ("DEVICE CONTROL ONE", 0x11), ("DC1", 0x11), ("DEVICE CONTROL TWO", 0x12), ("DC2", 0x12),
  ("DEVICE CONTROL THREE", 0x13), ("DC3", 0x13), ("DEVICE CONTROL FOUR", 0x14), ("DC4", 0x14),
  ("NEGATIVE ACKNOWLEDGE", 0x15), ("NAK", 0x15), ("SYNCHRONOUS IDLE", 0x16), ("SYN", 0x16),
  ("END OF TRANSMISSION BLOCK", 0x17), ("ETB", 0x17), ("CANCEL", 0x18), ("CAN", 0x18),
  ("END OF MEDIUM", 0x19), ("EOM", 0x19), ("SUBSTITUTE", 0x1A), ("SUB", 0x1A), ("ESCAPE", 0x1B),
  ("ESC", 0x1B), ("INFORMATION SEPARATOR FOUR", 0x1C), ("FILE SEPARATOR", 0x1C), ("FS", 0x1C),
  ("INFORMATION SEPARATOR THREE", 0x1D), ("GROUP SEPARATOR", 0x1D), ("GS", 0x1D),
  ("INFORMATION SEPARATOR TWO", 0x1E), ("RECORD SEPARATOR", 0x1E), ("RS", 0x1E),
  ("INFORMATION SEPARATOR ONE", 0x1F), ("UNIT SEPARATOR", 0x1F), ("US", 0x1F), ("SP", 0x20),
  ("DELETE", 0x7F), ("DEL", 0x7F), ("PADDING CHARACTER", 0x80), ("PAD", 0x80),
  ("HIGH OCTET PRESET", 0x81), ("HOP", 0x81), ("BREAK PERMITTED HERE", 0x82), ("BPH", 0x82),
  ("NO BREAK HERE", 0x83), ("NBH", 0x83), ("INDEX", 0x84), ("IND", 0x84), ("NEXT LINE", 0x85),
  ("NEL", 0x85), ("NBSP", 0xA0), ("SHY", 0xAD), ("ZWSP", 0x200B), ("ZWNJ", 0x200C), ("ZWJ", 0x200D),
  ("LRM", 0x200E), ("RLM", 0x200F), ("ZERO WIDTH NO-BREAK SPACE", 0xFEFF),
  ("BYTE ORDER MARK", 0xFEFF), ("BOM", 0xFEFF), ("ZWNBSP", 0xFEFF)]

/-- The code points of ideographs with a name made of their code, in ascending order. -/
def ideographRanges : List (Nat × Nat) := [
  (0x3400, 0x4DBF), (0x4E00, 0x9FFF), (0x20000, 0x2A6DF), (0x2A700, 0x2B739), (0x2B740, 0x2B81D),
  (0x2B820, 0x2CEA1), (0x2CEB0, 0x2EBE0), (0x30000, 0x3134A), (0x31350, 0x323AF)]

/-- What follows a lead. -/
def afterLead? (lead : String) (name : List Char) : Option (List Char) :=
  if lead.toList.isPrefixOf name then some (name.drop lead.length) else none

def isUpperHex (c : Char) : Bool := Number.isDigitIn 16 c && !c.isLower

/-- The ideograph of a name. -/
def ideographNamed? (name : List Char) : Option Nat := do
  let digits ← afterLead? "CJK UNIFIED IDEOGRAPH-" name
  let code := Number.valueIn 16 digits
  if (digits.length = 4 ∨ digits.length = 5) ∧ digits.all isUpperHex ∧
      inRanges ideographRanges code then
    some code
  else none

/-- How syllables begin. -/
def onsets : List String := [
  "G", "GG", "N", "D", "DD", "R", "M", "B", "BB", "S", "SS", "", "J", "JJ", "C", "K", "T", "P",
  "H"]

/-- The vowels of syllables. -/
def vowels : List String := [
  "A", "AE", "YA", "YAE", "EO", "E", "YEO", "YE", "O", "WA", "WAE", "OE", "YO", "U", "WEO", "WE",
  "WI", "YU", "EU", "YI", "I"]

/-- How syllables end. -/
def codas : List String := [
  "", "G", "GG", "GS", "N", "NJ", "NH", "D", "L", "LG", "LM", "LB", "LS", "LT", "LP", "LH", "M",
  "B", "BS", "S", "SS", "NG", "J", "C", "K", "T", "P", "H"]

/-- The longest part that the text starts with, by its position in the list, and what follows. -/
def longestPart? (parts : List String) (text : List Char) : Option (Nat × List Char) :=
  let fitting := parts.zipIdx.filter fun part => part.1.toList.isPrefixOf text
  let best := fitting.foldl (fun best part => match best with
    | some (found : String × Nat) => if found.1.length < part.1.length then some part else best
    | none => some part) none
  best.map fun (part, index) => (index, text.drop part.length)

/-- The syllable of a name. -/
def syllableNamed? (name : List Char) : Option Nat := do
  let rest ← afterLead? "HANGUL SYLLABLE " name
  let (onset, rest) ← longestPart? onsets rest
  let (vowel, rest) ← longestPart? vowels rest
  let (coda, rest) ← longestPart? codas rest
  if rest = [] then some (0xAC00 + (onset * 21 + vowel) * 28 + coda) else none

/-- The code of a listed name. -/
def listedCode? (name : List Char) : Option Nat :=
  let name := name.map Char.toUpper
  (otherNames.lookup (String.ofList name)).or
    ((letterRuns ++ symbolRuns).findSome? fun run => run.codeOf? name)

/-- The character of a name. -/
def characterNamed? (name : List Char) : Option Char :=
  (((syllableNamed? name).or (ideographNamed? name)).or (listedCode? name)).map Char.ofNat

example : syllableNamed? "HANGUL SYLLABLE GAGG".toList = some 0xAC02 := by decide +kernel

example : ideographNamed? "CJK UNIFIED IDEOGRAPH-4e00".toList = none := by decide +kernel

end SpecLint.Text
