import SpecLint.Proofs.Disk.Listing

/-!
# More files on the disk

A disk extends another one if everything that lies on the other lies on it as well, at the same
place. What a path leads to stays what it is: on the larger disk more paths lead somewhere, but none
leads elsewhere.

## Main results

`Extends.lookUp` and `Extends.names`: lookups and listings on the larger disk. `extends_write`: a
new file extends the disk, with the directories that lead to it.
-/
namespace SpecLint.Disk

/-- Whatever lies on a disk lies on the larger one, at the same place. -/
structure Extends (disk larger : Disk) : Prop where
  here : larger.here = disk.here
  keeps : ∀ place entry, disk.entryAt? place = some entry → larger.entryAt? place = some entry

namespace Extends

variable {disk larger : Disk}

theorem refl (disk : Disk) : disk.Extends disk := ⟨rfl, fun _ _ found => found⟩

theorem trans {last : Disk} (first : disk.Extends larger) (second : larger.Extends last) :
    disk.Extends last :=
  ⟨second.here.trans first.here, fun place entry found =>
    second.keeps place entry (first.keeps place entry found)⟩

/-! ### Lookups -/

/-- A way that leads somewhere leads there on the larger disk. -/
theorem follow (grown : disk.Extends larger) {place segments final : List String}
    (followed : disk.follow place segments = .ok final) :
    larger.follow place segments = .ok final := by
  induction segments generalizing place with
  | nil => simpa [Disk.follow] using followed
  | cons segment rest ih =>
    rw [Disk.follow] at followed ⊢
    cases found : disk.entryAt? place with
    | none => simp [found] at followed
    | some entry =>
      rw [found] at followed
      rw [grown.keeps place entry found]
      cases entry with
      | file bytes => simp at followed
      | directory =>
        -- each step starts from a directory that is there on both disks
        by_cases up : segment = ".."
        · simp only [up, if_true] at followed ⊢
          exact ih followed
        · simp only [up, if_false] at followed ⊢
          exact ih followed

theorem place (grown : disk.Extends larger) {path : Path} {place : List String}
    (placed : disk.place path = .ok place) : larger.place path = .ok place := by
  rw [Disk.place, grown.here]
  exact grown.follow placed

theorem lookUp (grown : disk.Extends larger) {path : Path} {entry : Entry}
    (found : disk.lookUp path = .ok entry) : larger.lookUp path = .ok entry := by
  unfold Disk.lookUp at found ⊢
  cases placed : disk.place path with
  | error fault => simp [placed] at found
  | ok place =>
    simp only [placed] at found
    simp only [grown.place placed]
    cases here : disk.entryAt? place with
    | none => simp [here] at found
    | some other =>
      simp only [here] at found
      simp only [grown.keeps place other here, found]

theorem isFile (grown : disk.Extends larger) {path : Path} (file : disk.isFile path = true) :
    larger.isFile path = true := by
  unfold Disk.isFile at file ⊢
  cases found : disk.lookUp path with
  | error fault => simp [found] at file
  | ok entry =>
    rw [grown.lookUp found]
    simpa [found] using file

theorem isDirectory (grown : disk.Extends larger) {path : Path}
    (directory : disk.isDirectory path = true) : larger.isDirectory path = true := by
  unfold Disk.isDirectory at directory ⊢
  cases found : disk.lookUp path with
  | error fault => simp [found] at directory
  | ok entry =>
    rw [grown.lookUp found]
    simpa [found] using directory

/-- A file keeps its content. -/
theorem readBytes (grown : disk.Extends larger) {path : Path} (file : disk.isFile path = true) :
    larger.readBytes path = disk.readBytes path := by
  unfold Disk.isFile at file
  cases found : disk.lookUp path with
  | error fault => simp [found] at file
  | ok entry => rw [Disk.readBytes, Disk.readBytes, grown.lookUp found, found]

/-- What a directory lists it goes on listing. -/
theorem names (grown : disk.Extends larger) {place : List String} {name : String}
    (listed : name ∈ disk.names place) : name ∈ larger.names place := by
  obtain ⟨found, there⟩ := exists_entry_of_mem_names listed
  exact mem_names (grown.keeps _ found there)

end Extends

/-! ### New files -/

variable {disk : Disk}

theorem extends_set {place : List String} (free : disk.entryAt? place = none) (entry : Entry) :
    disk.Extends (disk.set place entry) := by
  have below : place ≠ [] := by
    rintro rfl
    simp [entryAt?] at free
  refine ⟨rfl, fun other found here => ?_⟩
  rw [entryAt?_set disk place other entry below]
  by_cases same : other = place
  · rw [same, free] at here
    cases here
  · rw [if_neg same, here]

theorem extends_makeDirectory (disk : Disk) (place : List String) :
    disk.Extends (disk.makeDirectory place) := by
  unfold makeDirectory
  split
  · exact .refl disk
  next absent => exact extends_set (by simpa using absent) .directory

theorem extends_makeDirectories (disk : Disk) (above segments : List String) :
    disk.Extends (disk.makeDirectories above segments) := by
  induction segments generalizing disk above with
  | nil => exact .refl disk
  | cons segment rest ih =>
    exact (extends_makeDirectory disk _).trans (ih _ _)

theorem entryAt?_makeDirectory {place other : List String} (apart : other ≠ place)
    (below : place ≠ []) : (disk.makeDirectory place).entryAt? other = disk.entryAt? other := by
  unfold makeDirectory
  split
  · rfl
  · rw [entryAt?_set disk place other .directory below, if_neg apart]

/-- Directories are made at the places on the way, and further down nothing changes. -/
theorem entryAt?_makeDirectories {above segments other : List String}
    (deeper : above.length + segments.length < other.length) :
    (disk.makeDirectories above segments).entryAt? other = disk.entryAt? other := by
  induction segments generalizing disk above with
  | nil => rfl
  | cons segment rest ih =>
    rw [makeDirectories, ih (by simp at deeper ⊢; omega)]
    refine entryAt?_makeDirectory ?_ (by simp)
    rintro rfl
    simp at deeper

/-- A new file leaves everything as it is. -/
theorem extends_write {path : Path} (free : disk.entryAt? (disk.target path) = none)
    (entry : Entry) : disk.Extends (disk.write path entry) := by
  have below : disk.target path ≠ [] := by
    intro top
    simp [top, entryAt?] at free
  have shorter : ([] : List String).length + (disk.target path).dropLast.length <
      (disk.target path).length := by
    have := List.length_pos_iff.mpr below
    simp only [List.length_nil, List.length_dropLast]
    omega
  refine (extends_makeDirectories disk [] _).trans (extends_set ?_ entry)
  rw [entryAt?_makeDirectories shorter, free]

end SpecLint.Disk
