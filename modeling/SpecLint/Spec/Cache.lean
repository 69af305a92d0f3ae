import SpecLint.Disk.Basic
import SpecLint.Code.Parsed

/-!
# The memory of spec files

While one source file is analysed, every spec file is looked for, read and parsed at most once. What
was seen first stays valid for the whole analysis, even if the disk changes meanwhile. A file that
cannot be read counts as empty, and that is reported once. Trees are always made from the remembered
texts.
-/
namespace SpecLint.Spec

open SpecLint.Code SpecLint.Report

/-- What an analysis works on: the disk and a grammar. -/
structure Project where
  disk : Disk
  grammar : Grammar

/-- What has been seen of the spec files, and the events reported on the way. -/
structure Cache where
  existing : List (Path × Bool)
  texts : List (Path × String)
  trees : List (Path × Parsed)
  events : List Event

namespace Cache

def empty : Cache := ⟨[], [], [], []⟩

def report (events : List Event) (cache : Cache) : Cache :=
  { cache with events := cache.events ++ events }

/-- Whether a path is a file. -/
def isFile (project : Project) (path : Path) : StateM Cache Bool := fun cache =>
  match cache.existing.lookup path with
  | some known => (known, cache)
  | none =>
    let found := project.disk.isFile path
    (found, { cache with existing := (path, found) :: cache.existing })

/-- The text of a file on the disk, and what reading it reports. -/
def firstRead (project : Project) (path : Path) : String × List Event :=
  match project.disk.readText path with
  | .ok text => (text, [])
  | .error fault => ("", [.readFailed path.toString (fault.message path)])

/-- The text of a spec file. -/
def text (project : Project) (path : Path) : StateM Cache String := fun cache =>
  match cache.texts.lookup path with
  | some known => (known, cache)
  | none =>
    let (found, events) := firstRead project path
    (found, { cache.report events with texts := (path, found) :: cache.texts })

/-- The tree of a spec file. -/
def parsed (project : Project) (path : Path) : StateM Cache Parsed := fun cache =>
  match cache.trees.lookup path with
  | some known => (known, cache)
  | none =>
    let (text, cache) := text project path cache
    let made := Parsed.ofText project.grammar path text
    (made, { cache.report made.events with trees := (path, made) :: cache.trees })

/-- Reading once is enough: the second answer is the first. -/
theorem text_again (project later : Project) (path : Path) (cache : Cache) :
    (text later path (text project path cache).2).1 = (text project path cache).1 := by
  cases known : cache.texts.lookup path with
  | some seen => simp [text, known]
  | none => simp [text, known]

/-- What is known of a file stays known, whatever else is read. -/
theorem text_keeps (project : Project) (path other : Path) (cache : Cache) (seen : String)
    (known : cache.texts.lookup other = some seen) :
    (text project path cache).2.texts.lookup other = some seen := by
  cases present : cache.texts.lookup path with
  | some found => simpa [text, present] using known
  | none =>
    have apart : (other == path) = false := by
      rw [beq_eq_false_iff_ne]
      rintro rfl
      simp [known] at present
    simp [text, present, List.lookup_cons, apart, known]

theorem isFile_again (project later : Project) (path : Path) (cache : Cache) :
    (isFile later path (isFile project path cache).2).1 = (isFile project path cache).1 := by
  cases known : cache.existing.lookup path with
  | some seen => simp [isFile, known]
  | none => simp [isFile, known]

end Cache

end SpecLint.Spec
