import SpecLint.Data.Value
import SpecLint.Number.Digits

/-!
# Reading JSON

A JSON text denotes one value. A number with a fraction or an exponent is a floating-point number,
any other is an integer of up to `Number.digitLimit` digits; of entries with equal keys the last
wins and keeps the place of the first. The reader works on the characters that are left and a step
budget taken from their number, so it always ends.
-/
namespace SpecLint.Json

open SpecLint.Data SpecLint.Number

def isSpace (c : Char) : Bool := c = ' ' || c = '\n' || c = '\t' || c = '\r'

def skipSpace (text : List Char) : List Char := text.dropWhile isSpace

/-- Four hexadecimal digits. -/
def readUnit : List Char → Option (Nat × List Char)
  | a :: b :: c :: d :: rest => do
    let a ← hexValue a
    let b ← hexValue b
    let c ← hexValue c
    let d ← hexValue d
    return (((a * 16 + b) * 16 + c) * 16 + d, rest)
  | _ => none

/-- A character escaped by code: one unit, or two units that form a pair. -/
def readEscapedUnit (text : List Char) : Option (Char × List Char) := do
  let (high, rest) ← readUnit text
  if 0xD800 ≤ high ∧ high < 0xDC00 then
    match rest with
    | '\\' :: 'u' :: tail =>
      match readUnit tail with
      | some (low, after) =>
        if 0xDC00 ≤ low ∧ low < 0xE000 then
          return (Char.ofNat (0x10000 + (high - 0xD800) * 0x400 + (low - 0xDC00)), after)
        else return ('\uFFFD', rest)
      | none => return ('\uFFFD', rest)
    | _ => return ('\uFFFD', rest)
  else if 0xDC00 ≤ high ∧ high < 0xE000 then return ('\uFFFD', rest)
  else return (Char.ofNat high, rest)

/-- One escape, after its backslash. -/
def readEscape : List Char → Option (Char × List Char)
  | 'u' :: rest => readEscapedUnit rest
  | c :: rest =>
    match c with
    | '"' | '\\' | '/' => some (c, rest)
    | 'b' => some ('\x08', rest)
    | 'f' => some ('\x0c', rest)
    | 'n' => some ('\n', rest)
    | 'r' => some ('\r', rest)
    | 't' => some ('\t', rest)
    | _ => none
  | [] => none

/-- The rest of a text value, up to its closing quote. -/
def readText : Nat → List Char → List Char → Option (String × List Char)
  | 0, _, _ => none
  | _ + 1, _, [] => none
  | budget + 1, done, c :: rest =>
    if c = '"' then some (String.ofList done.reverse, rest)
    else if c = '\\' then
      match readEscape rest with
      | some (decoded, after) => readText budget (decoded :: done) after
      | none => none
    else if c.toNat < 0x20 then none
    else readText budget (c :: done) rest

/-- A number: an optional sign, an integer without leading zeros, then fraction and exponent. -/
def readNumber (text : List Char) : Option (Value × List Char) :=
  let (negative, text) := match text with
    | '-' :: rest => (true, rest)
    | _ => (false, text)
  let whole := text.takeWhile isDigit
  let whole := if whole.head? = some '0' then ['0'] else whole
  let rest := text.drop whole.length
  if whole.isEmpty then none
  else
    let fraction := match rest with
      | '.' :: tail => tail.takeWhile isDigit
      | _ => []
    let rest := if fraction.isEmpty then rest else rest.drop (fraction.length + 1)
    let (power, afterPower) := match rest with
      | c :: tail =>
        if c = 'e' ∨ c = 'E' then
          let (down, tail) := match tail with
            | '-' :: more => (true, more)
            | '+' :: more => (false, more)
            | _ => (false, tail)
          let digits := tail.takeWhile isDigit
          if digits.isEmpty then (none, rest)
          else
            let size : Int := digitsValue digits
            (some (if down then -size else size), tail.drop digits.length)
        else (none, rest)
      | [] => (none, rest)
    if fraction.isEmpty ∧ power = none then
      let value : Int := digitsValue whole
      if whole.length > digitLimit then none
      else some (.int (if negative then -value else value), rest)
    else
      let digits := digitsValue (whole ++ fraction)
      some (.float (.ofDecimal negative digits (power.getD 0 - fraction.length)), afterPower)

/-- Words that are values of their own. -/
def literals : List (List Char × Value) := [
  ("null".toList, .null), ("true".toList, .bool true), ("false".toList, .bool false),
  ("NaN".toList, .float .undefined), ("Infinity".toList, .float (.infinite false)),
  ("-Infinity".toList, .float (.infinite true))]

def readLiteral (text : List Char) : Option (Value × List Char) :=
  (literals.find? fun literal => literal.1.isPrefixOf text).map fun literal =>
    (literal.2, text.drop literal.1.length)

mutual
def readValue : Nat → List Char → Option (Value × List Char)
  | 0, _ => none
  | budget + 1, text =>
    match text with
    | '"' :: rest => (readText budget [] rest).map fun (value, after) =>
        (.text value, after)
    | '[' :: rest =>
      match skipSpace rest with
      | ']' :: after => some (.list [], after)
      | items => (readItems budget items).map fun (values, after) => (.list values, after)
    | '\x7b' :: rest =>
      match skipSpace rest with
      | '\x7d' :: after => some (.map [], after)
      | entries => (readEntries budget [] entries).map fun (values, after) => (.map values, after)
    | _ => (readLiteral text).or (readNumber text)

/-- Items up to the closing bracket. -/
def readItems : Nat → List Char → Option (List Value × List Char)
  | 0, _ => none
  | budget + 1, text => do
    let (value, rest) ← readValue budget text
    match skipSpace rest with
    | ',' :: more =>
      let (values, after) ← readItems budget (skipSpace more)
      return (value :: values, after)
    | ']' :: after => return ([value], after)
    | _ => none

/-- Entries up to the closing brace, added to those read so far. -/
def readEntries : Nat → Entries → List Char → Option (Entries × List Char)
  | 0, _, _ => none
  | budget + 1, done, text => do
    match text with
    | '"' :: rest =>
      let (key, rest) ← readText budget [] rest
      match skipSpace rest with
      | ':' :: rest =>
        let (value, rest) ← readValue budget (skipSpace rest)
        let done := Entries.put (.text key) value done
        match skipSpace rest with
        | ',' :: more => readEntries budget done (skipSpace more)
        | '\x7d' :: after => return (done, after)
        | _ => none
      | _ => none
    | _ => none
end

/-- The value of a JSON text, with blanks around it allowed. -/
def parse (text : String) : Option Value :=
  let chars := skipSpace text.toList
  match readValue (2 * chars.length + 2) chars with
  | some (value, rest) => if (skipSpace rest).isEmpty then some value else none
  | none => none

end SpecLint.Json
