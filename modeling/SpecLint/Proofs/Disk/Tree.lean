import Mathlib.Data.List.Induction
import Mathlib.Data.List.Nodup
import SpecLint.Proofs.Disk.Listing
import SpecLint.Proofs.Path.Spelling

/-!
# Disks that are trees

A disk holds a tree if every entry lies in a directory, under a name of its own. Then a path that
goes on by names alone leads where these names stand, and nowhere else: there is one path from a
directory to each file below it.

## Main results

`IsTree.isFile_append_iff`: what is a file behind a directory. `IsTree.mem_filesBelow`: which files
lie below a place.
-/
namespace SpecLint.Disk

/-- Every entry has a name that can be written, is the only one at its place and lies in a
directory. -/
structure IsTree (disk : Disk) : Prop where
  names : ∀ entry ∈ disk.entries, ∀ segment ∈ entry.1, Path.IsName segment ∧ segment ≠ ".."
  distinct : (disk.entries.map (·.1)).Nodup
  rooted : ∀ entry ∈ disk.entries, entry.1 ≠ [] ∧
    (disk.entryAt? entry.1.dropLast).any Entry.isDirectory = true

instance (disk : Disk) : Decidable disk.IsTree :=
  decidable_of_iff
    ((∀ entry ∈ disk.entries, ∀ segment ∈ entry.1, Path.IsName segment ∧ segment ≠ "..") ∧
      (disk.entries.map (·.1)).Nodup ∧
      ∀ entry ∈ disk.entries, entry.1 ≠ [] ∧
        (disk.entryAt? entry.1.dropLast).any Entry.isDirectory = true)
    ⟨fun ⟨names, distinct, rooted⟩ => ⟨names, distinct, rooted⟩,
      fun ⟨names, distinct, rooted⟩ => ⟨names, distinct, rooted⟩⟩

variable {disk : Disk}

/-! ### Entries -/

theorem eq_directory_of_any {entry : Option Entry} (directory : entry.any Entry.isDirectory = true) :
    entry = some .directory := by
  match entry, directory with
  | some .directory, _ => rfl

theorem mem_of_entryAt? {place : List String} {entry : Entry} (below : place ≠ [])
    (found : disk.entryAt? place = some entry) : (place, entry) ∈ disk.entries := by
  rw [entryAt?, if_neg below, Option.map_eq_some_iff] at found
  obtain ⟨⟨there, _⟩, here, rfl⟩ := found
  have same : there = place := by simpa using List.find?_some here
  rw [← same]
  exact List.mem_of_find?_eq_some here

namespace IsTree

variable (tree : disk.IsTree)
include tree

/-- Entries at one place are the same. -/
theorem eq_of_place_eq {left right : List String × Entry} (isLeft : left ∈ disk.entries)
    (isRight : right ∈ disk.entries) (same : left.1 = right.1) : left = right :=
  List.inj_on_of_nodup_map tree.distinct isLeft isRight same

theorem entryAt?_of_mem {entry : List String × Entry} (member : entry ∈ disk.entries) :
    disk.entryAt? entry.1 = some entry.2 := by
  have present : (disk.entryAt? entry.1).isSome = true := by
    rw [entryAt?, if_neg (tree.rooted entry member).1, Option.isSome_map, List.find?_isSome]
    exact ⟨entry, member, by simp⟩
  obtain ⟨found, there⟩ := Option.isSome_iff_exists.mp present
  have listed := mem_of_entryAt? (tree.rooted entry member).1 there
  rw [there, ← tree.eq_of_place_eq listed member rfl]

theorem directory_above {place : List String} {name : String} {entry : Entry}
    (found : disk.entryAt? (place ++ [name]) = some entry) :
    disk.entryAt? place = some .directory := by
  have member := mem_of_entryAt? (by simp) found
  have above := (tree.rooted _ member).2
  rw [List.dropLast_concat] at above
  exact eq_directory_of_any above

/-- All that leads to an entry are directories. -/
theorem directory_before {place names : List String} {entry : Entry} (below : names ≠ [])
    (found : disk.entryAt? (place ++ names) = some entry) :
    disk.entryAt? place = some .directory := by
  induction names using List.reverseRecOn generalizing entry with
  | nil => exact absurd rfl below
  | append_singleton front last ih =>
    rw [← List.append_assoc] at found
    have above := tree.directory_above found
    -- the entry right above is a directory, and the others are above that one
    by_cases top : front = []
    · rwa [top, List.append_nil] at above
    · exact ih top above

/-! ### Ways down -/

/-- Names lead down to the entry at their place. -/
theorem follow_names {place names : List String} {entry : Entry} (down : ".." ∉ names)
    (found : disk.entryAt? (place ++ names) = some entry) :
    disk.follow place names = .ok (place ++ names) := by
  induction names generalizing place with
  | nil => rw [follow, List.append_nil]
  | cons name names ih =>
    obtain ⟨isName, down⟩ := not_or.mp (mt List.mem_cons.mpr down)
    -- the step down is taken since what it starts from is a directory
    have directory := tree.directory_before (List.cons_ne_nil name names) found
    rw [List.append_cons] at found
    rw [follow, directory]
    simp only [if_neg (Ne.symm isName)]
    rw [ih down found, List.append_assoc, List.singleton_append]

end IsTree

/-- Names lead nowhere else, on any disk. -/
theorem eq_append_of_follow {place names final : List String} (down : ".." ∉ names)
    (followed : disk.follow place names = .ok final) : final = place ++ names := by
  induction names generalizing place with
  | nil =>
    rw [follow, Except.ok.injEq] at followed
    rw [← followed, List.append_nil]
  | cons name names ih =>
    obtain ⟨isName, down⟩ := not_or.mp (mt List.mem_cons.mpr down)
    rw [follow] at followed
    split at followed
    · cases followed
    · cases followed
    · rw [if_neg (Ne.symm isName)] at followed
      rw [ih down followed, List.append_assoc, List.singleton_append]

/-- Where a path leads that goes on by names. -/
theorem place_of_names {directory : Path} {names : List String} {final : List String}
    (down : ".." ∉ names)
    (placed : disk.place ⟨directory.root, directory.segments ++ names⟩ = .ok final) :
    ∃ place, disk.place directory = .ok place ∧ final = place ++ names := by
  rw [place_append] at placed
  cases start : disk.place directory with
  | error fault => simp [start, Except.bind] at placed
  | ok place =>
    rw [start] at placed
    exact ⟨place, rfl, eq_append_of_follow down placed⟩

namespace IsTree

variable (tree : disk.IsTree)
include tree

/-- Behind a directory, names make up the path of a file exactly if a file stands at their place. -/
theorem isFile_append_iff {directory : Path} {place names : List String}
    (placed : disk.place directory = .ok place) (down : ".." ∉ names) :
    disk.isFile ⟨directory.root, directory.segments ++ names⟩ = true ↔
      ∃ bytes, disk.entryAt? (place ++ names) = some (.file bytes) := by
  rw [isFile_iff]
  constructor
  · rintro ⟨final, bytes, reached, found⟩
    obtain ⟨start, placed', rfl⟩ := place_of_names down reached
    obtain rfl : place = start := Except.ok.inj (placed.symm.trans placed')
    exact ⟨bytes, found⟩
  · rintro ⟨bytes, found⟩
    refine ⟨place ++ names, bytes, ?_, found⟩
    rw [place_append, placed]
    exact tree.follow_names down found

/-! ### Files below a place -/

theorem mem_filesBelow {place names : List String} :
    names ∈ disk.filesBelow place ↔
      names ≠ [] ∧ ∃ bytes, disk.entryAt? (place ++ names) = some (.file bytes) := by
  rw [filesBelow, List.mem_filterMap]
  constructor
  · rintro ⟨⟨there, entry⟩, member, below⟩
    rw [Option.ite_none_right_eq_some, Option.some.injEq] at below
    obtain ⟨⟨isFile, inside, other⟩, rfl⟩ := below
    obtain ⟨names, rfl⟩ := List.isPrefixOf_iff_prefix.mp inside
    rw [List.drop_left]
    have found := tree.entryAt?_of_mem member
    cases entry with
    | directory => cases isFile
    | file bytes =>
      refine ⟨?_, bytes, found⟩
      rintro rfl
      exact other (List.append_nil place).symm
  · rintro ⟨below, bytes, found⟩
    have nonempty : place ++ names ≠ [] := List.append_ne_nil_of_right_ne_nil _ below
    refine ⟨(place ++ names, .file bytes), mem_of_entryAt? nonempty found, ?_⟩
    have other : place ≠ place ++ names := fun same => below (List.self_eq_append_right.mp same)
    simp [Entry.isFile, other]

/-- Files below a place are named downwards. -/
theorem down_of_mem_filesBelow {place names : List String} (listed : names ∈ disk.filesBelow place) :
    ".." ∉ names := by
  obtain ⟨below, bytes, found⟩ := tree.mem_filesBelow.mp listed
  have member := mem_of_entryAt? (List.append_ne_nil_of_right_ne_nil place below) found
  intro up
  exact (tree.names _ member ".." (List.mem_append_right place up)).2 rfl

/-- Different entries are at different places, so what is read off an entry occurs once if it tells
the place. -/
theorem nodup_filterMap {α : Type} {read : List String × Entry → Option α}
    (tells : ∀ left right value, read left = some value → read right = some value →
      left.1 = right.1) :
    (disk.entries.filterMap read).Nodup := by
  rw [List.Nodup, List.pairwise_filterMap]
  refine (List.pairwise_map.mp tree.distinct).imp ?_
  rintro left right apart value isLeft other isRight rfl
  exact apart (tells left right value isLeft isRight)

theorem nodup_filesBelow (place : List String) : (disk.filesBelow place).Nodup := by
  refine tree.nodup_filterMap fun left right names isLeft isRight => ?_
  -- the place and the names below it tell where an entry stands
  have whole {entry : List String × Entry}
      (listed : (if entry.2.isFile ∧ place.isPrefixOf entry.1 ∧ place ≠ entry.1 then
        some (entry.1.drop place.length) else none) = some names) : entry.1 = place ++ names := by
    rw [Option.ite_none_right_eq_some, Option.some.injEq] at listed
    obtain ⟨⟨-, inside, -⟩, rfl⟩ := listed
    obtain ⟨below, whole⟩ := List.isPrefixOf_iff_prefix.mp inside
    rw [← whole, List.drop_left]
  rw [whole isLeft, whole isRight]

theorem nodup_names (place : List String) : (disk.names place).Nodup := by
  refine tree.nodup_filterMap fun left right name isLeft isRight => ?_
  have whole {entry : List String × Entry}
      (listed : (if entry.1.dropLast = place then entry.1.getLast? else none) = some name) :
      entry.1 = place ++ [name] := by
    rw [Option.ite_none_right_eq_some] at listed
    obtain ⟨rfl, last⟩ := listed
    obtain ⟨front, named⟩ := List.getLast?_eq_some_iff.mp last
    rw [named, List.dropLast_concat]
  rw [whole isLeft, whole isRight]

end IsTree

end SpecLint.Disk
