import SpecLint.Data.Rendered

/-!
# Counts with nouns

One of a thing is singular, any other number plural.
-/
namespace SpecLint.Report

open SpecLint.Data

/-- A count, as any scalar, with its noun; without a plural form the noun takes an `s`. -/
def counted (count : Scalar) (singular : String) (plural : Option String) : String :=
  let noun := if count.same (.int 1) then singular else plural.getD (singular ++ "s")
  (Value.scalar count).rendered ++ " " ++ noun

def countedNat (count : Nat) (singular : String) (plural : Option String) : String :=
  counted (.int count) singular plural

end SpecLint.Report
