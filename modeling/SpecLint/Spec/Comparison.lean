import SpecLint.Spec.Coverage
import SpecLint.Routine.Branches

/-!
# Branches against scenarios

A routine with several branches should have at least as many scenarios in its specs. The scenarios
are counted under the headers of the routine and its aliases, or directly under the headers of its
unit, and summed over all spec files. Where there is no such header there is nothing to compare.
-/
namespace SpecLint.Spec

open SpecLint.Code SpecLint.Data SpecLint.Report

structure Comparison where
  branches : Nat
  contexts : Nat
  deriving DecidableEq, Repr

namespace Comparison

/-- A routine with one branch always suffices. -/
def sufficient (comparison : Comparison) : Bool :=
  decide (comparison.branches ≤ 1) || decide (comparison.branches ≤ comparison.contexts)

/-- How many scenarios are missing. -/
def deficit (comparison : Comparison) : Nat := comparison.branches - comparison.contexts

def toValue (comparison : Comparison) : Value :=
  .record [("sufficient", .bool comparison.sufficient), ("branches", .nat comparison.branches),
    ("contexts", .nat comparison.contexts), ("deficit", .nat comparison.deficit)]

theorem deficit_pos {comparison : Comparison} (short : comparison.sufficient = false) :
    0 < comparison.deficit := by
  simp [sufficient] at short
  simp only [deficit]
  omega

end Comparison

/-- The sum of the counts that are there, if any is. -/
def sumCounts (counts : List (Option Nat)) : Option Nat :=
  let found := counts.filterMap id
  if found.isEmpty then none else some (found.foldr (· + ·) 0)

/-- Count in every spec file. -/
def totalOver (project : Project) (paths : List Path) (count : Node → Option Nat) :
    StateM Cache (Option Nat) := do
  let counts ← paths.mapM fun path => return count (← Cache.parsed project path).root
  return sumCounts counts

/-- The scenarios under the headers of a routine and its aliases. -/
def contextTotal (project : Project) (paths : List Path) (key : HeaderKey) (table : AliasTable) :
    StateM Cache (Option Nat) := do
  let (aliases, ignored) := table.forKey key
  modify (Cache.report ignored)
  let titles := key.toString :: aliases.map HeaderKey.toString
  totalOver project paths fun tree => countContexts tree titles

/-- The scenarios directly under the headers of a unit. -/
def unitContextTotal (project : Project) (paths : List Path) (unit : String) :
    StateM Cache (Option Nat) :=
  totalOver project paths fun tree => countUnitContexts tree unit

/-- Compare a number of branches with the scenarios of a routine, or of `relaxed`, its unit. -/
def compare (project : Project) (branches : Nat) (paths : List Path) (key : HeaderKey)
    (table : AliasTable) (relaxed : Option String) : StateM Cache (Option Comparison) := do
  let contexts ← match relaxed with
    | some unit => unitContextTotal project paths unit
    | none => contextTotal project paths key table
  match contexts with
  | none =>
    modify (Cache.report [.noHeader key.toString relaxed])
    return none
  | some contexts => return some ⟨branches, contexts⟩

theorem sumCounts_eq_none_iff (counts : List (Option Nat)) :
    sumCounts counts = none ↔ ∀ count ∈ counts, count = none := by
  simp only [sumCounts, List.isEmpty_iff]
  split
  next absent => simpa [List.filterMap_eq_nil_iff] using absent
  next present =>
    simp only [reduceCtorEq, false_iff]
    intro all
    exact present (List.filterMap_eq_nil_iff.mpr fun count member => all count member)

end SpecLint.Spec
