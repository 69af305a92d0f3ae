import SpecLint.Proofs.Disk.Listing

/-!
# Another content of a file

A file is given another content. Ways, listings and kinds of entries do not depend on contents, so
of all that a disk is asked only the content of this file is another one, whatever path leads to it.

## Main results

`isFile_refill`, `isDirectory_refill`, `names_refill` and `readText_refill`
-/
namespace SpecLint

/-- The text of a file with some bytes: invalid ones are replaced and line ends unified. -/
def Disk.textOfBytes (bytes : ByteArray) : String :=
  String.ofList (Text.unifyLines (Text.decode bytes).toList)

/-- The entry with some bytes, if it is a file. -/
def Entry.refill (bytes : ByteArray) : Entry → Entry
  | .file _ => .file bytes
  | .directory => .directory

namespace Disk

/-- The disk with some bytes in the file at a place, if there is one. -/
def refill (disk : Disk) (place : List String) (bytes : ByteArray) : Disk :=
  { disk with entries := disk.entries.map fun entry =>
      if entry.1 = place then (entry.1, entry.2.refill bytes) else entry }

variable (disk : Disk) (place : List String) (bytes : ByteArray)

theorem entryAt?_refill (other : List String) :
    (disk.refill place bytes).entryAt? other =
      (disk.entryAt? other).map fun entry =>
        if other = place then entry.refill bytes else entry := by
  unfold entryAt?
  by_cases top : other = []
  · simp [top, Entry.refill]
  · have named : (fun entry : List String × Entry => entry.1 == other) ∘
        (fun entry => if entry.1 = place then (entry.1, entry.2.refill bytes) else entry) =
          fun entry => entry.1 == other := by
      funext entry
      simp only [Function.comp_apply]
      split <;> rfl
    rw [if_neg top, if_neg top, refill, List.find?_map, named, Option.map_map, Option.map_map]
    cases found : disk.entries.find? fun entry => entry.1 == other with
    | none => rfl
    | some entry =>
      have here : entry.1 = other := by simpa using List.find?_some found
      simp only [Option.map_some, Function.comp_apply, here]
      split <;> rfl

/-- Which way a path leads is no question of contents. -/
theorem follow_refill (start segments : List String) :
    (disk.refill place bytes).follow start segments = disk.follow start segments := by
  induction segments generalizing start with
  | nil => rfl
  | cons segment rest ih =>
    rw [follow, follow, entryAt?_refill]
    cases disk.entryAt? start with
    | none => rfl
    | some entry =>
      cases entry with
      | file content => by_cases here : start = place <;> simp [here, Entry.refill]
      | directory => simp only [Option.map_some, Entry.refill, ite_self, ih]

theorem place_refill (path : Path) : (disk.refill place bytes).place path = disk.place path :=
  follow_refill disk place bytes _ _

/-- A path leads to what it led to before, or to the file. -/
theorem lookUp_refill (path : Path) :
    (disk.refill place bytes).lookUp path = disk.lookUp path ∨
      ∃ content, disk.entryAt? place = some (.file content) ∧
        disk.lookUp path = .ok (.file content) ∧
        (disk.refill place bytes).lookUp path = .ok (.file bytes) := by
  unfold lookUp
  rw [place_refill]
  cases disk.place path with
  | error fault => exact .inl rfl
  | ok other =>
    simp only [entryAt?_refill]
    -- the bytes are other ones only where the path leads to the file itself
    by_cases here : other = place
    · subst here
      cases found : disk.entryAt? other with
      | none => exact .inl rfl
      | some entry =>
        cases entry with
        | directory => exact .inl (by simp [Entry.refill])
        | file content => exact .inr ⟨content, rfl, rfl, by simp [Entry.refill]⟩
    · exact .inl (by simp [here])

theorem isFile_refill (path : Path) :
    (disk.refill place bytes).isFile path = disk.isFile path := by
  unfold isFile
  rcases disk.lookUp_refill place bytes path with same | ⟨content, -, before, after⟩
  · rw [same]
  · rw [before, after]
    rfl

theorem isDirectory_refill (path : Path) :
    (disk.refill place bytes).isDirectory path = disk.isDirectory path := by
  unfold isDirectory
  rcases disk.lookUp_refill place bytes path with same | ⟨content, -, before, after⟩
  · rw [same]
  · rw [before, after]
    rfl

theorem names_refill (directory : List String) :
    (disk.refill place bytes).names directory = disk.names directory := by
  rw [names, refill, List.filterMap_map, names]
  congr 1
  funext entry
  simp only [Function.comp_apply]
  split <;> rfl

variable {disk place bytes}

/-- Where the file is read, it is read with its other content. -/
theorem readText_refill {content : ByteArray} (file : disk.entryAt? place = some (.file content))
    (path : Path) :
    (disk.refill place bytes).readText path = disk.readText path ∨
      disk.readText path = .ok (textOfBytes content) ∧
        (disk.refill place bytes).readText path = .ok (textOfBytes bytes) := by
  unfold readText readBytes
  rcases disk.lookUp_refill place bytes path with same | ⟨other, found, before, after⟩
  · rw [same]
    exact .inl rfl
  · rw [file, Option.some.injEq, Entry.file.injEq] at found
    subst found
    rw [before, after]
    exact .inr ⟨rfl, rfl⟩

end Disk

end SpecLint
