/-!
# Binary floating-point numbers

Settings and reports hold double-precision numbers. They are modelled exactly, as a significand
times a power of two, so reading a decimal, rounding and printing are arithmetic on natural numbers.
-/
namespace SpecLint.Number

/-- A double-precision number. A finite one is `± significand · 2 ^ exponent`. -/
inductive Binary64 where
  | finite (negative : Bool) (significand : Nat) (exponent : Int)
  | infinite (negative : Bool)
  | undefined
  deriving DecidableEq, Repr

/-- The quotient nearest to `num / den`; a tie goes to the even neighbour. -/
def roundDiv (num den : Nat) : Nat :=
  let quotient := num / den
  let twice := 2 * (num % den)
  if twice < den then quotient
  else if den < twice then quotient + 1
  else if quotient % 2 = 0 then quotient else quotient + 1

/-- Rounding an exact quotient changes nothing. -/
theorem roundDiv_mul (n den : Nat) (positive : 0 < den) : roundDiv (n * den) den = n := by
  simp [roundDiv, Nat.mul_div_cancel n positive, positive]

/-- The rounded quotient is within half a unit. -/
theorem roundDiv_near (num den : Nat) (positive : 0 < den) :
    2 * num ≤ 2 * (roundDiv num den) * den + den ∧
      2 * (roundDiv num den) * den ≤ 2 * num + den := by
  have split := Nat.div_add_mod num den
  have small := Nat.mod_lt num positive
  have expand (q : Nat) : 2 * q * den = 2 * (den * q) := by
    rw [Nat.mul_assoc, Nat.mul_comm q den]
  have next : den * (num / den + 1) = den * (num / den) + den := Nat.mul_succ _ _
  simp only [roundDiv]
  split
  · rw [expand]; omega
  · split
    · rw [expand, next]; omega
    · split
      · rw [expand]; omega
      · rw [expand, next]; omega

/-- `num / den` scaled by `base ^ power`, as a quotient. -/
def scale (base : Nat) (num den : Nat) : Int → Nat × Nat
  | .ofNat power => (num * Nat.pow base power, den)
  | .negSucc power => (num, den * Nat.pow base (power + 1))

namespace Binary64

/-- The number nearest to `num / den`. -/
def ofQuotient (negative : Bool) (num den : Nat) : Binary64 :=
  if num = 0 then .finite negative 0 (-1074)
  else
    let estimate : Int := (num.log2 : Int) - den.log2 - 53
    let fits (exponent : Int) : Bool :=
      let (n, d) := scale 2 num den (-exponent)
      decide (n < Nat.pow 2 53 * d)
    let exponent := if fits estimate then estimate else if fits (estimate + 1) then estimate + 1
      else estimate + 2
    let exponent := max exponent (-1074)
    let (n, d) := scale 2 num den (-exponent)
    let significand := roundDiv n d
    let (significand, exponent) :=
      if significand = Nat.pow 2 53 then (Nat.pow 2 52, exponent + 1) else (significand, exponent)
    if exponent > 971 then .infinite negative else .finite negative significand exponent

/-- The number nearest to `digits · 10 ^ power`. Powers far outside the range of the format are
settled without computing them. -/
def ofDecimal (negative : Bool) (digits : Nat) (power : Int) : Binary64 :=
  if digits = 0 then .finite negative 0 (-1074)
  else if power > 400 then .infinite negative
  else if power + ((Nat.toDigits 10 digits).length : Int) < -400 then
    .finite negative 0 (-1074)
  else
    let (num, den) := scale 10 digits 1 power
    ofQuotient negative num den

/-- The exact magnitude of a finite number as a quotient. -/
def magnitude (significand : Nat) (exponent : Int) : Nat × Nat := scale 2 significand 1 exponent

/-- The whole number that a finite number equals, if there is one. -/
def toInt? : Binary64 → Option Int
  | .finite negative significand exponent =>
    let (num, den) := magnitude significand exponent
    if num % den = 0 then
      let whole : Int := (num / den : Nat)
      some (if negative then -whole else whole)
    else none
  | _ => none

/-- Round to `places` decimal places. -/
def roundPlaces (places : Nat) : Binary64 → Binary64
  | .finite negative significand exponent =>
    let (num, den) := magnitude significand exponent
    ofDecimal negative (roundDiv (num * Nat.pow 10 places) den) (-(places : Int))
  | other => other

/-- The number of digits before the decimal point; zero or negative for a number below one tenth. -/
def leadingDigits (num den : Nat) : Int :=
  ((Nat.toDigits 10 (num * Nat.pow 10 400 / den)).length : Int) - 400

/-- The best decimal of `count` digits for `significand · 2 ^ exponent`: the nearer of the two
neighbours on that grid among those that read back as the number, the even one of two that are
equally near. -/
def decimalOf? (significand : Nat) (exponent : Int) (point : Int) (count : Nat) : Option Nat :=
  let unit : Int := exponent - 2
  let below := if significand = Nat.pow 2 52 ∧ exponent > -1074 then 1 else 2
  let value := 4 * significand
  let shift : Int := (count : Int) - point
  let grid (n : Nat) : Nat × Nat :=
    let (num, den) := scale 10 n 1 shift
    scale 2 num den unit
  let (num, den) := grid value
  let reads (candidate : Nat) : Bool :=
    let (lowNum, lowDen) := grid (value - below)
    let (highNum, highDen) := grid (value + 2)
    if significand % 2 = 0 then
      decide (lowNum ≤ candidate * lowDen) && decide (candidate * highDen ≤ highNum)
    else decide (lowNum < candidate * lowDen) && decide (candidate * highDen < highNum)
  let floor := num / den
  match reads floor, reads (floor + 1) with
  | true, true => some (roundDiv num den)
  | true, false => some floor
  | false, true => some (floor + 1)
  | false, false => none

/-- The fewest digits that read back as the number, with the position of the decimal point. -/
def shortest (significand : Nat) (exponent : Int) : List Char × Int :=
  let (num, den) := magnitude significand exponent
  let point := leadingDigits num den
  let found := (List.range 17).findSome? fun n => decimalOf? significand exponent point (n + 1)
    |>.map fun digits => (digits, n + 1)
  match found with
  | none => ([], point)
  | some (digits, count) =>
    let written := Nat.toDigits 10 digits
    let point := point + ((written.length : Int) - count)
    let trimmed := (written.reverse.dropWhile (· = '0')).reverse
    (trimmed, point)

/-- Numbers with a point position from -3 to 16 are written positionally, with at least one digit on
both sides of the point; the others with a power of ten of at least two digits. -/
def render : Binary64 → List Char
  | .undefined => "nan".toList
  | .infinite negative => (if negative then "-inf" else "inf").toList
  | .finite negative significand exponent =>
    let sign := if negative then ['-'] else []
    if significand = 0 then sign ++ "0.0".toList
    else
      let (digits, point) := shortest significand exponent
      sign ++
        if point < -3 ∨ point > 16 then
          let power := point - 1
          let size := Nat.toDigits 10 power.natAbs
          let fraction := match digits with
            | first :: [] => [first]
            | first :: rest => first :: '.' :: rest
            | [] => []
          fraction ++ ['e', if power < 0 then '-' else '+'] ++
            (if size.length < 2 then '0' :: size else size)
        else if point ≤ 0 then
          "0.".toList ++ List.replicate point.natAbs '0' ++ digits
        else
          let whole := point.toNat
          if digits.length ≤ whole then
            digits ++ List.replicate (whole - digits.length) '0' ++ ".0".toList
          else digits.take whole ++ '.' :: digits.drop whole

example : (ofDecimal false 1 (-1)).render = "0.1".toList := by decide +kernel
example : (ofDecimal false 1 16).render = "1e+16".toList := by decide +kernel
example : (ofDecimal false 5 (-324)).render = "5e-324".toList := by decide +kernel
example : ((ofDecimal false 123456 (-5)).roundPlaces 3).render = "1.235".toList := by
  decide +kernel

end Binary64

end SpecLint.Number
