/-!
# Digits

The digits of ASCII and what they count, for every notation of numbers. Numbers of more decimal
digits than `digitLimit` are neither read from nor written as text.
-/
namespace SpecLint.Number

def digitValue (c : Char) : Option Nat :=
  if '0' ≤ c ∧ c ≤ '9' then some (c.toNat - 48) else none

def hexValue (c : Char) : Option Nat :=
  if '0' ≤ c ∧ c ≤ '9' then some (c.toNat - 48)
  else if 'a' ≤ c ∧ c ≤ 'f' then some (c.toNat - 87)
  else if 'A' ≤ c ∧ c ≤ 'F' then some (c.toNat - 55)
  else none

/-- The number written by decimal digits. -/
def digitsValue (digits : List Char) : Nat :=
  digits.foldl (fun total c => total * 10 + (c.toNat - 48)) 0

def isDigit (c : Char) : Bool := (digitValue c).isSome

/-- A digit of a notation with at most sixteen digits. -/
def isDigitIn (base : Nat) (c : Char) : Bool := (hexValue c).any (· < base)

/-- The number that digits write in a base. -/
def valueIn (base : Nat) (digits : List Char) : Nat :=
  digits.foldl (fun total c => total * base + (hexValue c).getD 0) 0

/-- The greatest number of decimal digits that is converted. -/
def digitLimit : Nat := 4300

/-- A further digit on the right counts once, all others `base` times as much as before. -/
theorem valueIn_append_digit (base : Nat) (digits : List Char) (c : Char) :
    valueIn base (digits ++ [c]) = valueIn base digits * base + (hexValue c).getD 0 := by
  simp [valueIn, List.foldl_append]

theorem isDigit_eq_isDigitIn (c : Char) (digit : isDigit c = true) : isDigitIn 10 c = true := by
  simp only [isDigit, digitValue] at digit
  split at digit
  next range =>
    have high : c.toNat ≤ 57 := range.2
    simp only [isDigitIn, hexValue, range, and_self, if_true, Option.any_some, decide_eq_true_eq]
    omega
  next => simp at digit

end SpecLint.Number
