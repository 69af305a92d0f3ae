import SpecLint.Data.Rendered

/-!
# Writing JSON

Output is pure ASCII: every other character is written by its code, those past the first plane as a
pair of units. Reports come in two layouts, on one line or with two spaces of indentation a level.
-/
namespace SpecLint.Json

open SpecLint.Data SpecLint.Text

def escapeUnit (unit : Nat) : List Char := '\\' :: 'u' :: hexDigits 4 unit

def escapeChar (c : Char) : List Char :=
  if c = '"' then ['\\', '"']
  else if c = '\\' then ['\\', '\\']
  else if c = '\n' then ['\\', 'n']
  else if c = '\r' then ['\\', 'r']
  else if c = '\t' then ['\\', 't']
  else if c = '\x08' then ['\\', 'b']
  else if c = '\x0c' then ['\\', 'f']
  else if 0x20 ≤ c.toNat ∧ c.toNat < 0x7F then [c]
  else if c.toNat < 0x10000 then escapeUnit c.toNat
  else
    let offset := c.toNat - 0x10000
    escapeUnit (0xD800 + offset / 0x400) ++ escapeUnit (0xDC00 + offset % 0x400)

def writeText (text : List Char) : List Char := '"' :: (text.flatMap escapeChar ++ ['"'])

def writeScalar : Scalar → List Char
  | .null => "null".toList
  | .bool true => "true".toList
  | .bool false => "false".toList
  | .int value => intText value
  | .float (.infinite negative) => (if negative then "-Infinity" else "Infinity").toList
  | .float .undefined => "NaN".toList
  | .float value => value.render
  | .text value => writeText value.toList
  | .date year month day =>
    writeText (padded 4 year ++ '-' :: padded 2 month ++ '-' :: padded 2 day)
  | .moment value => writeText value.rendered
  | .bytes value => writeText (Data.quotedBytes value)

/-- A key is always written as text. -/
def writeKey : Scalar → List Char
  | .text value => writeText value.toList
  | other => writeText (writeScalar other)

/-- How items are separated: on one line, or each on its own line at a depth. -/
inductive Layout where
  | line
  | indented (depth : Nat)
  deriving DecidableEq, Repr

def Layout.deeper : Layout → Layout
  | .line => .line
  | .indented depth => .indented (depth + 1)

/-- The break before an item. -/
def Layout.newline : Layout → List Char
  | .line => []
  | .indented depth => '\n' :: List.replicate (2 * depth) ' '

/-- The separator between two items. -/
def Layout.comma : Layout → List Char
  | .line => [',', ' ']
  | layout => ',' :: layout.newline

mutual
def write (layout : Layout) : Value → List Char
  | .scalar value => writeScalar value
  | .list [] | .tuple [] | .set [] => ['[', ']']
  | .list (item :: items) | .tuple (item :: items) =>
    '[' :: (layout.deeper.newline ++ write layout.deeper item ++ writeItems layout.deeper items ++
      layout.newline ++ [']'])
  | .set (item :: items) =>
    '[' :: (layout.deeper.newline ++ writeScalar item ++
      items.flatMap (fun item => layout.deeper.comma ++ writeScalar item) ++
      layout.newline ++ [']'])
  | .looped _ value => write layout value
  | .map [] => ['\x7b', '\x7d']
  | .map ((key, value) :: entries) =>
    '\x7b' :: (layout.deeper.newline ++ writeKey key ++ [':', ' '] ++ write layout.deeper value ++
      writeEntries layout.deeper entries ++ layout.newline ++ ['\x7d'])

/-- The items after the first, each behind its separator. -/
def writeItems (layout : Layout) : List Value → List Char
  | [] => []
  | item :: items => layout.comma ++ write layout item ++ writeItems layout items

def writeEntries (layout : Layout) : List (Scalar × Value) → List Char
  | [] => []
  | (key, value) :: entries =>
    layout.comma ++ writeKey key ++ [':', ' '] ++ write layout value ++ writeEntries layout entries
end

/-- The value on one line. -/
def compact (value : Value) : String := String.ofList (write .line value)

/-- The value with two spaces of indentation a level. -/
def pretty (value : Value) : String := String.ofList (write (.indented 0) value)

end SpecLint.Json
