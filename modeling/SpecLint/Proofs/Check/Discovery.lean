import SpecLint.Check.Run
import SpecLint.Proofs.Path.Spelling

/-!
# Which files a run finds

The arguments of a run may overlap or repeat, and several of them may lead to one file. A file that
is there already is not added again, so every file is found once, and as a file that is found is a
clean path, no two files are written the same.

## Main result

`nodup_toString_discover`: no two files of a run are written the same.
-/
namespace SpecLint

/-- The entries of a disk have names that can be written. -/
def Disk.Proper (disk : Disk) : Prop :=
  ∀ entry ∈ disk.entries, ∀ segment ∈ entry.1, Path.IsName segment

instance (disk : Disk) : Decidable disk.Proper :=
  inferInstanceAs (Decidable (∀ entry ∈ disk.entries, ∀ segment ∈ entry.1, Path.IsName segment))

namespace Check

/-! ### New files -/

theorem mem_addNew {found files : List Path} {file : Path} :
    file ∈ addNew found files ↔ file ∈ found ∨ file ∈ files := by
  unfold addNew
  induction files generalizing found with
  | nil => simp
  | cons first files ih =>
    rw [List.foldl_cons, ih, List.mem_cons]
    split
    next known =>
      have known : first ∈ found := List.contains_iff_mem.mp known
      constructor
      · rintro (before | later)
        · exact .inl before
        · exact .inr (.inr later)
      · rintro (before | rfl | later)
        · exact .inl before
        · exact .inl known
        · exact .inr later
    next => rw [List.mem_append, List.mem_singleton, or_assoc]

theorem nodup_addNew {found : List Path} (distinct : found.Nodup) (files : List Path) :
    (addNew found files).Nodup := by
  unfold addNew
  induction files generalizing found with
  | nil => exact distinct
  | cons first files ih =>
    rw [List.foldl_cons]
    apply ih
    split
    next => exact distinct
    next unknown =>
      have fresh : first ∉ found := mt List.contains_iff_mem.mpr unknown
      refine List.nodup_append.mpr ⟨distinct, List.pairwise_singleton _ _, ?_⟩
      intro before isFound new isNew same
      rw [List.mem_singleton] at isNew
      exact fresh (isNew ▸ same ▸ isFound)

variable (disk : Disk) (arguments : List Path)

/-- Every file is found once. -/
theorem nodup_discover : (discover disk arguments).Nodup := by
  suffices ∀ found : List Path, found.Nodup →
      (arguments.foldl (fun found path => addNew found ((filesOf disk path).getD [])) found).Nodup
    from this [] .nil
  induction arguments with
  | nil => exact fun _ distinct => distinct
  | cons path arguments ih => exact fun found distinct => ih _ (nodup_addNew distinct _)

/-- What is found is what some argument stands for. -/
theorem mem_discover {file : Path} :
    file ∈ discover disk arguments ↔
      ∃ path ∈ arguments, file ∈ (filesOf disk path).getD [] := by
  suffices ∀ found : List Path,
      file ∈ arguments.foldl (fun found path => addNew found ((filesOf disk path).getD [])) found ↔
        file ∈ found ∨ ∃ path ∈ arguments, file ∈ (filesOf disk path).getD []
    from (this []).trans (by simp)
  induction arguments with
  | nil => simp
  | cons path arguments ih =>
    intro found
    rw [List.foldl_cons, ih, mem_addNew, or_assoc]
    simp only [List.mem_cons, exists_eq_or_imp]

/-! ### Clean files -/

variable {disk}

theorem clean_filesOf {path file : Path} (proper : disk.Proper) (clean : path.Clean)
    (member : file ∈ (filesOf disk path).getD []) : file.Clean := by
  unfold filesOf at member
  split at member
  next =>
    rw [Option.getD_some, rubyFilesBelow] at member
    split at member
    next => cases member
    next =>
      -- a file below a directory has the segments of its entry
      rw [List.mem_mergeSort] at member
      obtain ⟨segments, listed, rfl⟩ := List.mem_map.mp member
      obtain ⟨entry, isEntry, some⟩ := List.mem_filterMap.mp (List.mem_filter.mp listed).1
      split at some
      next =>
        cases some
        exact clean.append fun segment below =>
          proper entry isEntry segment (List.mem_of_mem_drop below)
      next => cases some
  next =>
    split at member
    next =>
      rw [Option.getD_some, List.mem_singleton] at member
      rwa [member]
    next => cases member

/-- No two files that are found are written the same. -/
theorem nodup_toString_discover {arguments : List Path} (proper : disk.Proper)
    (clean : ∀ path ∈ arguments, path.Clean) :
    ((discover disk arguments).map Path.toString).Nodup := by
  have cleanFile : ∀ file ∈ discover disk arguments, file.Clean := by
    intro file member
    obtain ⟨path, isArgument, found⟩ := (mem_discover disk arguments).mp member
    exact clean_filesOf proper (clean path isArgument) found
  refine List.pairwise_map.mpr ((nodup_discover disk arguments).imp_of_mem ?_)
  intro left right isLeft isRight other same
  exact other ((cleanFile left isLeft).toString_injective (cleanFile right isRight) same)

end Check

end SpecLint
