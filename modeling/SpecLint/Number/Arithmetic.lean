import SpecLint.Number.Binary64

/-!
# Rounded arithmetic

Sums and products of binary floating-point numbers are the numbers nearest to the exact ones. A zero
that comes out of numbers of different signs is positive in a sum and negative in a product.
-/
namespace SpecLint.Number.Binary64

/-- The number nearest to `n · 2 ^ exponent`. -/
def ofScaled (negative : Bool) (n : Nat) (exponent : Int) : Binary64 :=
  let (num, den) := scale 2 n 1 exponent
  ofQuotient negative num den

/-- The number nearest to a whole one, if it is in range. -/
def ofNat? (n : Nat) : Option Binary64 :=
  match ofQuotient false n 1 with
  | .finite negative significand exponent => some (.finite negative significand exponent)
  | _ => none

def neg : Binary64 → Binary64
  | finite negative significand exponent => finite (!negative) significand exponent
  | infinite negative => infinite !negative
  | undefined => undefined

/-- A significand with its sign, counted in units of a smaller power of two. -/
def inUnits (negative : Bool) (significand : Nat) (drop : Nat) : Int :=
  let size : Int := significand * Nat.pow 2 drop
  if negative then -size else size

def add : Binary64 → Binary64 → Binary64
  | finite n s e, finite m t f =>
    let unit := min e f
    let total := inUnits n s (e - unit).toNat + inUnits m t (f - unit).toNat
    ofScaled (if total = 0 then n && m else decide (total < 0)) total.natAbs unit
  | infinite n, infinite m => if n = m then infinite n else undefined
  | infinite n, finite .. | finite .., infinite n => infinite n
  | undefined, _ | _, undefined => undefined

def mul : Binary64 → Binary64 → Binary64
  | finite n s e, finite m t f => ofScaled (n != m) (s * t) (e + f)
  | infinite n, infinite m => infinite (n != m)
  | infinite n, finite m s _ | finite m s _, infinite n =>
    if s = 0 then undefined else infinite (n != m)
  | undefined, _ | _, undefined => undefined

theorem add_comm (x y : Binary64) : x.add y = y.add x := by
  cases x with
  | finite n s e =>
    cases y with
    | finite m t f =>
      have units : min e f = min f e := Int.min_comm e f
      simp only [add, units, Int.add_comm (inUnits n s _), Bool.and_comm n m]
    | infinite => rfl
    | undefined => rfl
  | infinite n =>
    cases y with
    | finite => rfl
    | infinite m => cases n <;> cases m <;> rfl
    | undefined => rfl
  | undefined => cases y <;> rfl

theorem mul_comm (x y : Binary64) : x.mul y = y.mul x := by
  cases x with
  | finite n s e =>
    cases y with
    | finite m t f =>
      have signs : (n != m) = (m != n) := by cases n <;> cases m <;> rfl
      simp only [mul, Nat.mul_comm s t, Int.add_comm e f, signs]
    | infinite => rfl
    | undefined => rfl
  | infinite n =>
    cases y with
    | finite => rfl
    | infinite m => cases n <;> cases m <;> rfl
    | undefined => rfl
  | undefined => cases y <;> rfl

theorem neg_neg (x : Binary64) : x.neg.neg = x := by cases x <;> simp [neg]

example : ((ofDecimal false 1 (-1)).add (ofDecimal false 2 (-1))).render =
    "0.30000000000000004".toList := by decide +kernel

end SpecLint.Number.Binary64
