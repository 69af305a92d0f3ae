import SpecLint.Number.Binary64
import SpecLint.Number.Digits
import SpecLint.Text.Blank
import SpecLint.Text.Word

/-!
# Numbers as written

Numbers are read leniently: blanks around them do not count, and digits of all scripts do. A whole
number may show its base by a letter after a zero, and may have single underscores between digits. A
decimal number may have a point and an exponent, or be one of the words for infinity and for no
number.
-/
namespace SpecLint.Number

open SpecLint.Text

/-- Digits of all scripts as digits of ASCII, and wide blanks as spaces. -/
def plainForm (c : Char) : Char :=
  if c.toNat < 127 then c
  else if isBlank c then ' '
  else match decimalDigit? c with
    | some value => Char.ofNat (48 + value)
    | none => c

/-- A number without the blanks around it. -/
def plainNumber (text : List Char) : List Char :=
  (((text.map plainForm).dropWhile isAsciiBlank).reverse.dropWhile isAsciiBlank).reverse

/-- A sign, and what follows it. -/
def splitSign : List Char → Bool × List Char
  | '-' :: rest => (true, rest)
  | '+' :: rest => (false, rest)
  | text => (false, text)

/-- The letter that shows a base. -/
def baseLetter? : Nat → Option Char
  | 2 => some 'b'
  | 8 => some 'o'
  | 16 => some 'x'
  | _ => none

/-- What follows the mark of a base, if there is one. -/
def afterBaseMark (base : Nat) : List Char → List Char
  | '0' :: letter :: rest =>
    if baseLetter? base = some letter.toLower then
      match rest with
      | '_' :: digits => digits
      | digits => digits
    else '0' :: letter :: rest
  | text => text

/-- A run of digits with single underscores between them; none if it is anything else. -/
def groupedDigits? (base : Nat) : List Char → Option (List Char)
  | [] => none
  | [c] => if isDigitIn base c then some [c] else none
  | c :: '_' :: rest =>
    if isDigitIn base c then (groupedDigits? base rest).map (c :: ·) else none
  | c :: rest => if isDigitIn base c then (groupedDigits? base rest).map (c :: ·) else none

/-- Read a whole number in a base. Long numbers are only converted in bases that are powers of
two. -/
def readWhole? (base : Nat) (text : List Char) : Option Int := do
  let (negative, body) := splitSign (plainNumber text)
  let digits ← groupedDigits? base (afterBaseMark base body)
  if base = 10 ∧ digits.length > digitLimit then none
  else
    let value : Int := valueIn base digits
    return if negative then -value else value

/-- An exponent: a letter, perhaps a sign, and digits. -/
def exponent? : List Char → Option Int
  | [] => some 0
  | letter :: rest =>
    let (negative, digits) := splitSign rest
    if letter.toLower = 'e' ∧ digits ≠ [] ∧ digits.all isDigit then
      let power : Int := digitsValue digits
      some (if negative then -power else power)
    else none

/-- Read a decimal number as the nearest binary one. -/
def readBinary64? (text : List Char) : Option Binary64 := do
  let (negative, body) := splitSign (plainNumber text)
  let word := String.ofList (body.map Char.toLower)
  if word = "inf" ∨ word = "infinity" then return .infinite negative
  else if word = "nan" then return .undefined
  else
    let whole := body.takeWhile isDigit
    let (places, rest) := match body.drop whole.length with
      | '.' :: rest => (rest.takeWhile isDigit, rest.dropWhile isDigit)
      | rest => ([], rest)
    if whole = [] ∧ places = [] then none
    else
      let power ← exponent? rest
      return .ofDecimal negative (digitsValue (whole ++ places)) (power - places.length)

example : readWhole? 8 " 0o1_7\n".toList = some 15 := by decide +kernel

example : readWhole? 10 "-٣".toList = some (-3) := by decide +kernel

example : readWhole? 10 "1__0".toList = none := by decide +kernel

/-- Digits without underscores are read as they are. -/
theorem groupedDigits?_of_all (base : Nat) (digits : List Char) (some_digit : digits ≠ [])
    (all : ∀ c ∈ digits, isDigitIn base c = true) : groupedDigits? base digits = some digits := by
  induction digits with
  | nil => exact absurd rfl some_digit
  | cons c rest ih =>
    have first := all c List.mem_cons_self
    have others : ∀ d ∈ rest, isDigitIn base d = true := fun d member =>
      all d (List.mem_cons_of_mem _ member)
    cases rest with
    | nil => simp [groupedDigits?, first]
    | cons d more =>
      have digit := others d List.mem_cons_self
      have apart : d ≠ '_' := by
        rintro rfl
        simp [isDigitIn, hexValue] at digit
      unfold groupedDigits?
      split
      · simp_all
      · simp_all
      · simp_all
      · simp_all

end SpecLint.Number
