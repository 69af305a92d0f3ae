/-!
# Terminal escapes

A terminal takes an escape, a bracket, some numbers and a letter as an order. Where there is no
terminal these are left out.
-/
namespace SpecLint.Text

def isLetterOfAscii (c : Char) : Bool :=
  (decide ('a' ≤ c) && decide (c ≤ 'z')) || (decide ('A' ≤ c) && decide (c ≤ 'Z'))

/-- What can stand between the bracket and the letter of an order. -/
def isOrderNumber (c : Char) : Bool :=
  c = ';' || c = '?' || (decide ('0' ≤ c) && decide (c ≤ '9'))

/-- The length of the order behind an escape, if it is one. -/
def orderLength? : List Char → Option Nat
  | '[' :: rest =>
    let numbers := rest.takeWhile isOrderNumber
    match rest.drop numbers.length with
    | c :: _ => if isLetterOfAscii c then some (numbers.length + 2) else none
    | [] => none
  | _ => none

/-- Leave out all orders; `skipped` characters belong to one already. -/
def withoutOrdersFrom (skipped : Nat) : List Char → List Char
  | [] => []
  | c :: rest =>
    match skipped with
    | left + 1 => withoutOrdersFrom left rest
    | 0 => match if c = '\x1b' then orderLength? rest else none with
      | some length => withoutOrdersFrom length rest
      | none => c :: withoutOrdersFrom 0 rest

def withoutOrders (text : List Char) : List Char := withoutOrdersFrom 0 text

/-- A text without escapes has no orders in it. -/
theorem withoutOrders_eq_self (text : List Char) (absent : '\x1b' ∉ text) :
    withoutOrders text = text := by
  simp only [withoutOrders]
  induction text with
  | nil => rfl
  | cons c rest ih =>
    simp only [List.mem_cons, not_or] at absent
    have apart : c ≠ '\x1b' := fun same => absent.1 same.symm
    simp [withoutOrdersFrom, apart, ih absent.2]

example : withoutOrders "a\x1b[1;31mb\x1b[".toList = "ab\x1b[".toList := by decide +kernel

end SpecLint.Text
