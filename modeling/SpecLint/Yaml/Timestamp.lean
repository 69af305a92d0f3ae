import SpecLint.Data.Value
import SpecLint.Number.Digits
import SpecLint.Yaml.Cursor

/-!
# Dates and moments as written

A date has a year of four digits, a month and a day; a moment goes on with hour, minute and second,
perhaps a fraction of a second, and perhaps a time zone. What has this form need not exist.
-/
namespace SpecLint.Yaml

open SpecLint.Data SpecLint.Number

/-- A time of a day, as far as it is written. -/
structure Clock where
  hour : Nat
  minute : Nat
  second : Nat
  microsecond : Nat
  zone : Option Int
  deriving DecidableEq, Repr

/-- A date or moment as written. -/
structure Timestamp where
  year : Nat
  month : Nat
  day : Nat
  clock : Option Clock
  /-- Whether it has as many digits as it should when it is to be told from other text. -/
  isFull : Bool
  deriving DecidableEq, Repr

/-- The number of days in a month. -/
def daysIn (year month : Nat) : Nat :=
  if month = 2 then
    if year % 4 = 0 ∧ (year % 100 ≠ 0 ∨ year % 400 = 0) then 29 else 28
  else if month = 4 ∨ month = 6 ∨ month = 9 ∨ month = 11 then 30 else 31

/-- At least `least` and at most `most` digits. -/
def digits? (least most : Nat) (text : List Char) : Option (Nat × List Char) :=
  let digits := (text.takeWhile isDigit).take most
  if least ≤ digits.length then some (digitsValue digits, text.drop digits.length) else none

def sign? (c : Char) : List Char → Option (List Char)
  | d :: rest => if d = c then some rest else none
  | [] => none

def isInlineBlank (c : Char) : Bool := c = ' ' || c = '\t'

/-- A time zone, if there is one: `Z`, or an offset in hours and minutes. -/
def zone? (text : List Char) : Option (Option Int) :=
  match text.dropWhile isInlineBlank with
  | [] => if text = [] then some none else none
  | ['Z'] => some (some 0)
  | sign :: rest =>
    if sign ≠ '+' ∧ sign ≠ '-' then none
    else do
      let (hours, rest) ← digits? 1 2 rest
      let minutes ← match rest with
        | [] => some 0
        | ':' :: rest => do
          let (minutes, rest) ← digits? 2 2 rest
          if rest = [] then some minutes else none
        | _ => none
      let ahead : Int := (60 * hours + minutes : Nat)
      return some (if sign = '-' then -ahead else ahead)

/-- A fraction of a second; places beyond the sixth do not count. -/
def microseconds (digits : List Char) : Nat :=
  digitsValue (digits.take 6 ++ List.replicate (6 - digits.length) '0')

/-- The time of a day. -/
def Clock.ofText? (text : List Char) : Option Clock := do
  let (hour, rest) ← digits? 1 2 text
  let rest ← sign? ':' rest
  let (minute, rest) ← digits? 2 2 rest
  let rest ← sign? ':' rest
  let (second, rest) ← digits? 2 2 rest
  let (places, rest) := match rest with
    | '.' :: rest => (rest.takeWhile isDigit, rest.dropWhile isDigit)
    | rest => ([], rest)
  return ⟨hour, minute, second, microseconds places, ← zone? rest⟩

/-- What stands between date and time: a letter, or blanks. -/
def afterDate? : List Char → Option (List Char)
  | [] => none
  | c :: rest =>
    if c = 'T' ∨ c = 't' then some rest
    else if isInlineBlank c then some (rest.dropWhile isInlineBlank)
    else none

namespace Timestamp

def ofText? (text : List Char) : Option Timestamp := do
  let (year, rest) ← digits? 4 4 text
  let rest ← sign? '-' rest
  let (month, rest) ← digits? 1 2 rest
  let rest ← sign? '-' rest
  let (day, rest) ← digits? 1 2 rest
  if rest = [] then return ⟨year, month, day, none, text.length = 10⟩
  else return ⟨year, month, day, some (← Clock.ofText? (← afterDate? rest)), true⟩

def isDate (year month day : Nat) : Bool :=
  decide (1 ≤ year) && decide (1 ≤ month) && decide (month ≤ 12) && decide (1 ≤ day) &&
    decide (day ≤ daysIn year month)

/-- The date or moment itself, if there is such a one. -/
def toScalar (timestamp : Timestamp) : Except Fault Scalar :=
  let { year, month, day, clock, .. } := timestamp
  let fault : Except Fault Scalar := .error (.unfit .noSuchValue)
  if !isDate year month day then fault
  else match clock with
    | none => .ok (.date year month day)
    | some ⟨hour, minute, second, microsecond, zone⟩ =>
      if hour < 24 ∧ minute < 60 ∧ second < 60 ∧ zone.all (·.natAbs < 1440) then
        .ok (.moment ⟨year, month, day, hour, minute, second, microsecond, zone⟩)
      else fault

example : (ofText? "2001-2-3".toList).map (·.isFull) = some false := by decide +kernel

end Timestamp

end SpecLint.Yaml
