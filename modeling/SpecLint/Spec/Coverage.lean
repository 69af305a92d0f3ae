import SpecLint.Spec.Cache
import SpecLint.Spec.Headers
import SpecLint.Spec.Phrase

/-!
# Coverage

A routine is covered if some spec file documents it, by its own key or else by an alias. A unit
whose only public routine needs no header of its own is covered by any example in a file that
describes the unit.
-/
namespace SpecLint.Spec

open SpecLint.Report

/-- The texts of some spec files. -/
def readAll (project : Project) (paths : List Path) : StateM Cache (List (Path × String)) :=
  paths.mapM fun path => return (path, ← Cache.text project path)

/-- The first file that documents a key, and how. -/
def documenting? (key : HeaderKey) (texts : List (Path × String)) : Option (Path × Phrase) :=
  texts.findSome? fun (path, text) =>
    (Phrase.first? key text.toList).map fun phrase => (path, phrase)

/-- The search through several keys succeeds exactly if one of them is documented. -/
theorem isSome_findSome?_documenting (keys : List HeaderKey) (texts : List (Path × String)) :
    (keys.findSome? fun other =>
        (documenting? other texts).map fun found => (other, found.1)).isSome =
      keys.any fun other => (documenting? other texts).isSome := by
  rw [Bool.eq_iff_iff, List.any_eq_true, List.findSome?_isSome_iff]
  simp only [Option.isSome_map]

/-- Whether some spec file documents a routine. -/
def covers (project : Project) (paths : List Path) (key : HeaderKey) (table : AliasTable) :
    StateM Cache Bool := do
  let texts ← readAll project paths
  match documenting? key texts with
  | some (path, phrase) =>
    modify (Cache.report [.covered key.toString path.toString phrase.name])
    return true
  | none =>
    let (aliases, ignored) := table.forKey key
    modify (Cache.report ignored)
    let found := aliases.findSome? fun other =>
      (documenting? other texts).map fun found => (other, found.1)
    match found with
    | some (other, path) =>
      modify (Cache.report [.coveredByAlias key.toString other.toString path.toString])
      return true
    | none => return false

/-- Whether one spec file has an example and describes the unit, by its full or its short name. -/
def hasExamplesFor (project : Project) (unit : String) (path : Path) : StateM Cache Bool := do
  let text ← Cache.text project path
  if hasExample text.toList then
    let parsed ← Cache.parsed project path
    return declaresUnit parsed.root unit || declaresUnit parsed.root (CodeUnit.shortName unit)
  else return false

/-- Whether some spec file has an example and describes the unit. -/
def hasExamplesForUnit (project : Project) (unit : String) : List Path → StateM Cache Bool
  | [] => return false
  | path :: rest => do
    if ← hasExamplesFor project unit path then return true else hasExamplesForUnit project unit rest

end SpecLint.Spec
