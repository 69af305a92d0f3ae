import SpecLint.Disk.Basic

/-!
# Files and the directories that list them

A file is found by following the segments of its path, and the last step starts at the place of the
directory. So what is a file under a name in a directory is among the names that the directory
lists.

## Main results

`Disk.exists?_child_iff`: a directory lists the names of what lies in it. `Disk.listed_of_isFile`: a
file is listed where it lies.
-/
namespace SpecLint.Disk

variable {disk : Disk}

/-- Segments in a row are followed one part after the other. -/
theorem follow_append (start segments more : List String) :
    disk.follow start (segments ++ more) =
      (disk.follow start segments).bind fun place => disk.follow place more := by
  induction segments generalizing start with
  | nil => rfl
  | cons segment segments ih =>
    rw [List.cons_append, follow, follow]
    cases disk.entryAt? start with
    | none => rfl
    | some entry =>
      cases entry with
      | file bytes => rfl
      | directory =>
        by_cases above : segment = ".."
        · simp only [if_pos above]
          exact ih start.dropLast
        · simp only [if_neg above]
          exact ih (start ++ [segment])

/-- A path that goes on behind another one starts at the place of that one. -/
theorem place_append (directory : Path) (segments : List String) :
    disk.place ⟨directory.root, directory.segments ++ segments⟩ =
      (disk.place directory).bind fun place => disk.follow place segments :=
  follow_append _ directory.segments segments

theorem place_child (directory : Path) (name : String) :
    disk.place (directory.child name) =
      (disk.place directory).bind fun place => disk.follow place [name] :=
  place_append directory [name]

/-- A step to a name starts at a directory and ends at the name in it. -/
theorem follow_name {place final : List String} {name : String} (down : name ≠ "..")
    (followed : disk.follow place [name] = .ok final) :
    disk.entryAt? place = some .directory ∧ final = place ++ [name] := by
  rw [follow] at followed
  split at followed
  · cases followed
  · cases followed
  next directory =>
    rw [if_neg down, follow, Except.ok.injEq] at followed
    exact ⟨directory, followed.symm⟩

theorem isFile_iff {path : Path} :
    disk.isFile path = true ↔
      ∃ place bytes, disk.place path = .ok place ∧ disk.entryAt? place = some (.file bytes) := by
  unfold isFile lookUp
  cases disk.place path with
  | error fault => simp
  | ok place =>
    cases found : disk.entryAt? place with
    | none => simp [found]
    | some entry => cases entry <;> simp [found, Entry.isFile]

theorem isDirectory_of_place {path : Path} {place : List String}
    (placed : disk.place path = .ok place) (directory : disk.entryAt? place = some .directory) :
    disk.isDirectory path = true := by
  simp [isDirectory, lookUp, placed, directory, Entry.isDirectory, Entry.isFile]

/-- An entry is listed under its last segment. -/
theorem mem_names {place : List String} {name : String} {entry : Entry}
    (found : disk.entryAt? (place ++ [name]) = some entry) : name ∈ disk.names place := by
  rw [entryAt?, if_neg (by simp), Option.map_eq_some_iff] at found
  obtain ⟨listed, here, _⟩ := found
  have member := List.mem_of_find?_eq_some here
  have same : listed.1 = place ++ [name] := by simpa using List.find?_some here
  rw [names, List.mem_filterMap]
  exact ⟨listed, member, by simp [same]⟩

/-- What is listed is there. -/
theorem exists_entry_of_mem_names {place : List String} {name : String}
    (listed : name ∈ disk.names place) :
    ∃ entry, disk.entryAt? (place ++ [name]) = some entry := by
  simp only [names, List.mem_filterMap, Option.ite_none_right_eq_some] at listed
  obtain ⟨⟨segments, entry⟩, member, inside, last⟩ := listed
  obtain ⟨front, rfl⟩ := List.getLast?_eq_some_iff.mp last
  rw [List.dropLast_concat] at inside
  subst inside
  -- the listed entry may not be the first one at its place, but there is one
  rw [← Option.isSome_iff_exists, entryAt?, if_neg (by simp), Option.isSome_map,
    List.find?_isSome]
  exact ⟨_, member, by simp⟩

theorem exists?_iff {path : Path} :
    disk.exists? path = true ↔
      ∃ place entry, disk.place path = .ok place ∧ disk.entryAt? place = some entry := by
  unfold exists? lookUp
  cases disk.place path with
  | error fault => simp [Except.isOk, Except.toBool]
  | ok place => cases found : disk.entryAt? place <;> simp [Except.isOk, Except.toBool, found]

theorem exists_place_of_isDirectory {path : Path} (directory : disk.isDirectory path = true) :
    ∃ place, disk.place path = .ok place ∧ disk.entryAt? place = some .directory := by
  unfold isDirectory lookUp at directory
  cases placed : disk.place path with
  | error fault => simp [placed] at directory
  | ok place =>
    rw [placed] at directory
    refine ⟨place, rfl, ?_⟩
    cases found : disk.entryAt? place with
    | none => simp [found] at directory
    | some entry => cases entry <;> simp_all [Entry.isDirectory, Entry.isFile]

/-- There is something under a name in a directory exactly if the directory lists the name. -/
theorem exists?_child_iff {directory : Path} {name : String} (down : name ≠ "..") :
    disk.exists? (directory.child name) = true ↔
      ∃ place, disk.place directory = .ok place ∧ disk.isDirectory directory = true ∧
        name ∈ disk.names place := by
  rw [exists?_iff, place_child]
  constructor
  · rintro ⟨final, entry, reached, found⟩
    cases placed : disk.place directory with
    | error fault => simp [placed, Except.bind] at reached
    | ok place =>
      rw [placed] at reached
      obtain ⟨inside, rfl⟩ := follow_name down reached
      exact ⟨place, rfl, isDirectory_of_place placed inside, mem_names found⟩
  · rintro ⟨place, placed, isDirectory, listed⟩
    obtain ⟨entry, found⟩ := exists_entry_of_mem_names listed
    obtain ⟨other, placed', inside⟩ := exists_place_of_isDirectory isDirectory
    obtain rfl : other = place := Except.ok.inj (placed'.symm.trans placed)
    refine ⟨other ++ [name], entry, ?_, found⟩
    rw [placed]
    simp [Except.bind, follow, inside, down]

theorem exists?_of_isFile {path : Path} (file : disk.isFile path = true) :
    disk.exists? path = true := by
  obtain ⟨place, bytes, placed, found⟩ := isFile_iff.mp file
  exact exists?_iff.mpr ⟨place, _, placed, found⟩

/-- A file lies in a directory that lists its name. -/
theorem listed_of_isFile {directory : Path} {name : String} (down : name ≠ "..")
    (file : disk.isFile (directory.child name) = true) :
    ∃ place, disk.place directory = .ok place ∧ disk.isDirectory directory = true ∧
      name ∈ disk.names place :=
  (exists?_child_iff down).mp (exists?_of_isFile file)

end SpecLint.Disk
