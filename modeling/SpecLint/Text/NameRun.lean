import SpecLint.Text.Split

/-!
# Runs of character names

Characters that follow one another at a fixed distance often have names with the same lead. A run
lists what distinguishes them. A run of letters in two cases has two leads, one for each case.
-/
namespace SpecLint.Text

structure NameRun where
  /-- The code of the first character under the first lead. -/
  first : Nat
  /-- The distance from one character to the next under the same lead. -/
  step : Nat
  /-- The distance from a character to the one with the next lead. -/
  gap : Nat
  leads : List String
  /-- The ends of the names, line by line with semicolons between them. -/
  ends : List String
  deriving Repr

namespace NameRun

/-- The code of the character of that name, if it is in the run. -/
def codeOf? (run : NameRun) (name : List Char) : Option Nat :=
  run.leads.zipIdx.findSome? fun (lead, place) =>
    if lead.toList.isPrefixOf name then
      let rest := name.drop lead.length
      let ends := run.ends.flatMap fun line => splitOn ';' line.toList
      (ends.findIdx? (· == rest)).map fun index =>
        run.first + index * run.step + place * run.gap
    else none

end NameRun

end SpecLint.Text
