import SpecLint.Number.Written
import SpecLint.Text.Split
import SpecLint.Yaml.Timestamp

/-!
# Tags of plain data

Every node has a tag, which says what kind of data it holds. Where none is written, a collection is
a list or mapping, a quoted scalar is a text, and a plain scalar has the tag of the form it has:
there are words for truth values and for null; whole numbers are decimal, binary, octal, hexadecimal
or in base sixty with colons, and may be grouped by underscores; a fraction needs a point, and its
exponent a sign.
-/
namespace SpecLint.Yaml

open SpecLint.Number SpecLint.Text

inductive Tag where
  | null
  | truth
  | whole
  | fraction
  | bytes
  | moment
  | text
  | list
  | map
  | set
  /-- A list of pairs that stands for a mapping. -/
  | orderedMap
  | pairs
  /-- The tag of a key whose value is merged into the mapping. -/
  | merge
  /-- The tag of a lone equal sign. -/
  | equals
  | other
  deriving DecidableEq, Repr

namespace Tag

/-- The start of the tags of plain data. -/
def standard : String := "tag:yaml.org,2002:"

/-- The tags of plain data by the rest of their names. -/
def names : List (String × Tag) := [
  ("null", null), ("bool", truth), ("int", whole), ("float", fraction), ("binary", bytes),
  ("timestamp", moment), ("str", text), ("seq", list), ("map", map), ("set", set),
  ("omap", orderedMap), ("pairs", pairs), ("merge", merge), ("value", equals)]

def ofName (name : String) : Tag :=
  ((names.find? fun entry => standard ++ entry.1 = name).map (·.2)).getD other

/-- Whether the tag is one of collections. -/
def isCollection : Tag → Bool
  | list | map | set | orderedMap | pairs => true
  | _ => false

end Tag

/-! ## Forms of plain scalars -/

def trueWords : List String :=
  ["yes", "Yes", "YES", "true", "True", "TRUE", "on", "On", "ON"]

def falseWords : List String :=
  ["no", "No", "NO", "false", "False", "FALSE", "off", "Off", "OFF"]

def nullWords : List String := ["~", "null", "Null", "NULL", ""]

def isGrouped (test : Char → Bool) (text : List Char) : Bool := text.all fun c => c = '_' || test c

/-- A number below sixty, of one or two digits. -/
def isSixtieth : List Char → Bool
  | [d] => isDigit d
  | [t, d] => decide ('0' ≤ t) && decide (t ≤ '5') && isDigit d
  | _ => false

/-- Digits, the first no underscore. -/
def isNumeral (text : List Char) : Bool :=
  text.head?.any isDigit && isGrouped isDigit text

/-- A whole number without its sign. -/
def isUnsignedWhole (text : List Char) : Bool :=
  match text with
  | '0' :: 'b' :: digits => digits ≠ [] && isGrouped (isDigitIn 2) digits
  | '0' :: 'x' :: digits => digits ≠ [] && isGrouped (isDigitIn 16) digits
  | '0' :: digits => isGrouped (isDigitIn 8) digits
  | _ =>
    let parts := splitOn ':' text
    isNumeral (parts.headD []) && parts.tail.all isSixtieth

def isWhole (text : List Char) : Bool := isUnsignedWhole (splitSign text).2

/-- Nothing, or an exponent: a letter, a sign and digits. -/
def isExponent : List Char → Bool
  | [] => true
  | letter :: sign :: digits =>
    (letter = 'e' || letter = 'E') && (sign = '+' || sign = '-') && digits ≠ [] &&
      digits.all isDigit
  | _ => false

def infinityWords : List String := [".inf", ".Inf", ".INF"]

def undefinedWords : List String := [".nan", ".NaN", ".NAN"]

/-- A fraction. A leading point needs a digit after it, and no sign before it. -/
def isFraction (text : List Char) : Bool :=
  let (_, body) := splitSign text
  let whole := body.takeWhile (· ≠ '.')
  let parts := splitOn ':' whole
  if infinityWords.contains (String.ofList body) then true
  else if undefinedWords.contains (String.ofList text) then true
  else match body.drop whole.length with
    | '.' :: rest =>
      let places := rest.takeWhile fun c => c = '_' || isDigit c
      if parts.length > 1 then
        isNumeral (parts.headD []) && parts.tail.all isSixtieth && places.length = rest.length
      else
        (if whole = [] then places.head?.any isDigit && text.length = body.length
          else isNumeral whole) && isExponent (rest.drop places.length)
    | _ => false

/-- Signs that start a node when they are not quoted. -/
def nodeSigns : List String := ["!", "&", "*"]

/-- The tag that a plain scalar has by its form. -/
def Tag.ofForm (written : List Char) : Tag :=
  let text := String.ofList written
  if trueWords.contains text || falseWords.contains text then .truth
  else if isFraction written then .fraction
  else if isWhole written then .whole
  else if text = "<<" then .merge
  else if nullWords.contains text then .null
  else if (Timestamp.ofText? written).any (·.isFull) then .moment
  else if text = "=" then .equals
  else if nodeSigns.contains text then .other
  else .text

/-- A text without the line end that may follow the form. -/
def withoutLineEnd (text : List Char) : List Char :=
  if text.getLast? = some '\n' ∧ text ≠ ['\n'] then text.dropLast else text

/-- The tag of a plain scalar. -/
def Tag.ofPlain (text : String) : Tag := Tag.ofForm (withoutLineEnd text.toList)

end SpecLint.Yaml
