import SpecLint.Data.Value
import SpecLint.Number.Digits
import SpecLint.Text.Quoted

/-!
# Values in messages

An offending value is quoted in messages in one fixed notation: `None`, `True`, `False`, numbers in
their shortest form, lists in brackets, mappings in braces. A text stands bare by itself and quoted
inside a list or mapping; dates and moments stand bare by themselves and are expressions inside.
Where a collection occurs inside itself, three points stand for it.
-/
namespace SpecLint.Data

open SpecLint.Text

def natText (n : Nat) : List Char := Nat.toDigits 10 n

def intText (n : Int) : List Char :=
  if n < 0 then '-' :: natText n.natAbs else natText n.natAbs

/-- Digits of `n`, filled up with zeros on the left. -/
def padded (width n : Nat) : List Char :=
  let digits := natText n
  List.replicate (width - digits.length) '0' ++ digits

/-- Items with a comma and a space between them. -/
def commaSeparated : List (List Char) → List Char
  | [] => []
  | [item] => item
  | item :: items => item ++ [',', ' '] ++ commaSeparated items

/-- A date or moment as an expression: its kind applied to its parts. -/
def applied (kind : String) (parts : List (List Char)) : List Char :=
  "datetime.".toList ++ kind.toList ++ '(' :: (commaSeparated parts ++ [')'])

/-- A time zone as an expression. A span of time has a whole number of days, which may be negative,
and seconds, which may not. -/
def zoneExpression (zone : Int) : List Char :=
  if zone = 0 then "datetime.timezone.utc".toList
  else
    let seconds := "seconds=".toList ++ intText (zone % 1440 * 60)
    let span := if zone < 0 then ["days=-1".toList, seconds] else [seconds]
    applied "timezone" [applied "timedelta" span]

namespace Moment

/-- A moment inside a list or mapping; seconds and their fraction are left out if zero. -/
def inner (moment : Moment) : List Char :=
  let whole := [moment.year, moment.month, moment.day, moment.hour, moment.minute]
  let rest :=
    if moment.microsecond ≠ 0 then [moment.second, moment.microsecond]
    else if moment.second ≠ 0 then [moment.second] else []
  let zone := moment.zone.toList.map fun zone => "tzinfo=".toList ++ zoneExpression zone
  applied "datetime" ((whole ++ rest).map natText ++ zone)

/-- A moment standing by itself. -/
def rendered (moment : Moment) : List Char :=
  let date := padded 4 moment.year ++ '-' :: padded 2 moment.month ++ '-' :: padded 2 moment.day
  let time := padded 2 moment.hour ++ ':' :: padded 2 moment.minute ++ ':' ::
    padded 2 moment.second
  let fraction := if moment.microsecond = 0 then [] else '.' :: padded 6 moment.microsecond
  let zone := match moment.zone with
    | none => []
    | some zone => (if zone < 0 then '-' else '+') :: padded 2 (zone.natAbs / 60) ++
        ':' :: padded 2 (zone.natAbs % 60)
  date ++ ' ' :: time ++ fraction ++ zone

end Moment

/-- A byte inside quotes. -/
def quoteByte (quote : Char) (byte : UInt8) : List Char :=
  if byte < 128 then quoteChar quote (Char.ofNat byte.toNat)
  else '\\' :: 'x' :: hexDigits 2 byte.toNat

/-- Bytes in quotes, behind a letter that tells them from text. -/
def quotedBytes (bytes : List UInt8) : List Char :=
  let quote := quoteFor (bytes.map fun byte => Char.ofNat byte.toNat)
  'b' :: quote :: (bytes.flatMap (quoteByte quote) ++ [quote])

/-- A scalar inside a list or mapping. -/
def Scalar.inner : Scalar → List Char
  | .null => "None".toList
  | .bool true => "True".toList
  | .bool false => "False".toList
  | .int value => intText value
  | .float value => value.render
  | .date year month day => applied "date" [natText year, natText month, natText day]
  | .moment value => value.inner
  | .bytes value => quotedBytes value
  | .text value => quoted value.toList

/-- What stands for a collection inside itself. -/
def Value.ellipsis : Value → List Char
  | .map _ => "\x7b...\x7d".toList
  | .tuple _ => "(...)".toList
  | _ => "[...]".toList

mutual
/-- A value inside the collections known by the numbers `within`. -/
def Value.innerOf (within : List Nat) : Value → List Char
  | .scalar value => value.inner
  | .list items => '[' :: (commaSeparated (innerItems within items) ++ [']'])
  | .map entries => '\x7b' :: (commaSeparated (innerEntries within entries) ++ ['\x7d'])
  | .tuple items => '(' :: (commaSeparated (innerItems within items) ++ [')'])
  | .set [] => "set()".toList
  | .set items => '\x7b' :: (commaSeparated (items.map Scalar.inner) ++ ['\x7d'])
  | .looped number value =>
    if number ∈ within then value.ellipsis else value.innerOf (number :: within)

def innerItems (within : List Nat) : List Value → List (List Char)
  | [] => []
  | item :: rest => item.innerOf within :: innerItems within rest

def innerEntries (within : List Nat) : List (Scalar × Value) → List (List Char)
  | [] => []
  | (key, value) :: rest =>
    (key.inner ++ [':', ' '] ++ value.innerOf within) :: innerEntries within rest
end

/-- A value inside a list or mapping. -/
def Value.inner (value : Value) : List Char := value.innerOf []

/-- A value standing by itself. -/
def Value.rendered : Value → String
  | .scalar (.text value) => value
  | .scalar (.date year month day) =>
    String.ofList (padded 4 year ++ '-' :: padded 2 month ++ '-' :: padded 2 day)
  | .scalar (.moment value) => String.ofList value.rendered
  | other => String.ofList other.inner

/-- A number that is not too long to be written. -/
def Scalar.isWritable : Scalar → Bool
  | .int value => decide (value.natAbs < Nat.pow 10 Number.digitLimit)
  | _ => true

mutual
/-- Whether all numbers in a value can be written. -/
def Value.isWritable : Value → Bool
  | .scalar value => value.isWritable
  | .list items | .tuple items => areWritable items
  | .map entries => areEntriesWritable entries
  | .set items => items.all Scalar.isWritable
  | .looped _ value => value.isWritable

def areWritable : List Value → Bool
  | [] => true
  | item :: rest => item.isWritable && areWritable rest

def areEntriesWritable : List (Scalar × Value) → Bool
  | [] => true
  | (key, value) :: rest => key.isWritable && value.isWritable && areEntriesWritable rest
end

example : (Value.scalar (.moment ⟨2001, 12, 14, 21, 59, 43, 0, some 0⟩)).rendered =
    "2001-12-14 21:59:43+00:00" := by decide +kernel

example : (Value.looped 1 (.list [.looped 1 (.list [])])).rendered = "[[...]]" := by
  decide +kernel

example : (Value.list [.null, .bool true, .text "a"]).rendered = "[None, True, 'a']" := by
  decide +kernel

end SpecLint.Data
