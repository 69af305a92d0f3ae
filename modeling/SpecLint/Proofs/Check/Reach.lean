import SpecLint.Proofs.Check.Recurrence
import SpecLint.Proofs.Disk.Tree
import SpecLint.Proofs.Path.Order

/-!
# The files that arguments reach

An argument reaches the Ruby files below it, if it is a directory, or itself, if it is a Ruby file.
Arguments may overlap: a file belongs to the first one that reaches it, so the files of a run come in
groups, one for each argument, and within a group in ascending order. Each of them gets a result.

## Main result

`check_of_reached`: the files for which a run yields results, and their order.

## Proof strategy

On a disk that holds a tree, the listing of a directory is compared with the paths that go on behind
it. Then one more argument adds a group to the files found so far, and the induction is on the
arguments from the last one.
-/
namespace SpecLint

/-- A path goes on behind a directory by one name or several. -/
def Path.IsBelow (file directory : Path) : Prop :=
  ∃ names, names ≠ [] ∧ ".." ∉ names ∧ file = ⟨directory.root, directory.segments ++ names⟩

theorem Disk.IsTree.proper {disk : Disk} (tree : disk.IsTree) : disk.Proper :=
  fun entry member segment inside => (tree.names entry member segment inside).1

namespace Check

open SpecLint.Code

/-- An argument of a run reaches a file: as a Ruby file below it, or as that file itself. -/
def Reaches (disk : Disk) (argument file : Path) : Prop :=
  disk.isFile file = true ∧
    (disk.isDirectory argument = true ∧ file.IsBelow argument ∧ file.name.endsWith ".rb" = true ∨
      file = argument ∧ file.suffix = ".rb")

section Tree

variable {disk : Disk} (tree : disk.IsTree)
include tree

/-! ### The files of one argument -/

theorem mem_rubyFilesBelow {directory file : Path} {place : List String}
    (placed : disk.place directory = .ok place) :
    file ∈ rubyFilesBelow disk directory ↔
      disk.isFile file = true ∧ file.IsBelow directory ∧ file.name.endsWith ".rb" = true := by
  have named {names : List String} (below : names ≠ []) :
      (⟨directory.root, directory.segments ++ names⟩ : Path).name = names.getLast?.getD "" := by
    rw [Path.name, List.getLast?_append_of_ne_nil _ below]
  simp only [rubyFilesBelow, placed, List.mem_mergeSort, List.mem_map, List.mem_filter]
  constructor
  · rintro ⟨names, ⟨listed, ending⟩, rfl⟩
    obtain ⟨below, isFile⟩ := tree.mem_filesBelow.mp listed
    have down := tree.down_of_mem_filesBelow listed
    exact ⟨(tree.isFile_append_iff placed down).mpr isFile, ⟨names, below, down, rfl⟩,
      (named below).symm ▸ ending⟩
  · rintro ⟨isFile, ⟨names, below, down, rfl⟩, ending⟩
    -- without steps upwards the names stand on the disk just as they are written
    have found := (tree.isFile_append_iff placed down).mp isFile
    exact ⟨names, ⟨tree.mem_filesBelow.mpr ⟨below, found⟩, named below ▸ ending⟩, rfl⟩

omit tree in
theorem not_isDirectory_of_isFile {path : Path} (isFile : disk.isFile path = true) :
    ¬disk.isDirectory path = true := by
  intro isDirectory
  obtain ⟨place, bytes, placed, file⟩ := Disk.isFile_iff.mp isFile
  obtain ⟨other, placed', directory⟩ := Disk.exists_place_of_isDirectory isDirectory
  -- a path leads to one place, and there is one entry there
  obtain rfl : place = other := Except.ok.inj (placed.symm.trans placed')
  rw [file] at directory
  cases directory

theorem mem_filesOf {argument file : Path} :
    file ∈ (filesOf disk argument).getD [] ↔ Reaches disk argument file := by
  unfold filesOf Reaches
  split
  next directory =>
    obtain ⟨place, placed, -⟩ := Disk.exists_place_of_isDirectory directory
    rw [Option.getD_some, mem_rubyFilesBelow tree placed]
    constructor
    · rintro ⟨isFile, below, ending⟩
      exact ⟨isFile, .inl ⟨directory, below, ending⟩⟩
    · rintro ⟨isFile, ⟨-, below, ending⟩ | ⟨rfl, -⟩⟩
      · exact ⟨isFile, below, ending⟩
      · exact absurd directory (not_isDirectory_of_isFile isFile)
  next other =>
    split
    next ruby =>
      rw [Option.getD_some, List.mem_singleton]
      constructor
      · rintro rfl
        exact ⟨ruby.2, .inr ⟨rfl, ruby.1⟩⟩
      · rintro ⟨-, ⟨directory, -⟩ | ⟨same, -⟩⟩
        · exact absurd directory other
        · exact same
    next ignored =>
      simp only [Option.getD_none, List.not_mem_nil, false_iff]
      rintro ⟨isFile, ⟨directory, -⟩ | ⟨rfl, suffix⟩⟩
      · exact other directory
      · exact ignored ⟨suffix, isFile⟩

/-- The files of an argument ascend, and none of them stands there twice. -/
theorem ascending_filesOf (argument : Path) :
    ((filesOf disk argument).getD []).Pairwise fun left right =>
      left.le right = true ∧ left ≠ right := by
  unfold filesOf
  split
  · rw [Option.getD_some, rubyFilesBelow]
    split
    · exact .nil
    next place _ =>
      refine List.pairwise_and_iff.mpr ⟨Path.pairwise_mergeSort_le _, ?_⟩
      refine (List.mergeSort_perm _ _).nodup_iff.mpr (List.Nodup.map ?_ ?_)
      · intro left right same
        exact List.append_cancel_left (Path.mk.inj same).2
      · exact (tree.nodup_filesBelow place).filter _
  · split
    · exact List.pairwise_singleton _ _
    · exact .nil

/-! ### Groups -/

/-- The files found under some arguments in groups: each argument has the files that it is the first
to reach, in ascending order. -/
structure Grouped (disk : Disk) (arguments : List Path) (groups : List (List Path)) : Prop where
  paired : groups.length = arguments.length
  ascending : ∀ group ∈ groups, group.Pairwise fun left right =>
    left.le right = true ∧ left ≠ right
  members : ∀ i argument group, arguments[i]? = some argument → groups[i]? = some group →
    ∀ file, file ∈ group ↔
      Reaches disk argument file ∧ ∀ earlier ∈ arguments.take i, ¬Reaches disk earlier file

omit tree in
/-- New files are put behind those that are there already. -/
theorem addNew_eq {found files : List Path} (distinct : files.Nodup) :
    addNew found files = found ++ files.filter fun file => !found.contains file := by
  unfold addNew
  induction files generalizing found with
  | nil => simp
  | cons file files ih =>
    obtain ⟨fresh, distinct⟩ := List.nodup_cons.mp distinct
    rw [List.foldl_cons, ih distinct]
    by_cases known : file ∈ found
    · simp [known]
    · -- the file that was just added is none of those behind it
      have others : (files.filter fun other => !(found ++ [file]).contains other) =
          files.filter fun other => !found.contains other := by
        refine List.filter_congr fun other member => ?_
        have apart : other ≠ file := fun same => fresh (same ▸ member)
        simp [apart]
      have skipped : ¬found.contains file = true := mt List.contains_iff_mem.mp known
      rw [if_neg skipped, others, List.filter_cons_of_pos (by simp [known]), List.append_assoc,
        List.singleton_append]

omit tree in
theorem discover_append (arguments : List Path) (argument : Path) :
    discover disk (arguments ++ [argument]) =
      addNew (discover disk arguments) ((filesOf disk argument).getD []) := by
  simp [discover]

theorem mem_discover_iff {arguments : List Path} {file : Path} :
    file ∈ discover disk arguments ↔ ∃ argument ∈ arguments, Reaches disk argument file := by
  rw [mem_discover]
  simp only [mem_filesOf tree]

theorem exists_grouped (arguments : List Path) :
    ∃ groups, discover disk arguments = groups.flatten ∧ Grouped disk arguments groups := by
  induction arguments using List.reverseRecOn with
  | nil => exact ⟨[], rfl, rfl, by simp, by simp⟩
  | append_singleton arguments last ih =>
    obtain ⟨groups, flat, grouped⟩ := ih
    have ascends := ascending_filesOf tree last
    -- the last argument adds one group, of the files that none before it has found
    let added := ((filesOf disk last).getD []).filter fun file =>
      !(discover disk arguments).contains file
    refine ⟨groups ++ [added], ?_, by simp [grouped.paired], ?_, ?_⟩
    · rw [discover_append, addNew_eq (ascends.imp And.right), List.flatten_append, ← flat]
      simp [added]
    · intro group member
      rcases List.mem_append.mp member with before | isLast
      · exact grouped.ascending group before
      · rw [List.mem_singleton.mp isLast]
        exact ascends.filter _
    · intro i argument group isArgument isGroup file
      by_cases before : i < arguments.length
      · -- the arguments before the last one have the groups they had
        rw [List.getElem?_append_left before] at isArgument
        rw [List.getElem?_append_left (grouped.paired ▸ before)] at isGroup
        rw [List.take_append_of_le_length before.le]
        exact grouped.members i argument group isArgument isGroup file
      · have index : i = arguments.length := by
          have inside := (List.getElem?_eq_some_iff.mp isArgument).1
          simp only [List.length_append, List.length_singleton] at inside
          omega
        subst index
        rw [List.getElem?_concat_length, Option.some.injEq] at isArgument
        rw [← grouped.paired, List.getElem?_concat_length, Option.some.injEq] at isGroup
        subst isArgument isGroup
        rw [List.take_left, List.mem_filter, mem_filesOf tree]
        have known : (!(discover disk arguments).contains file) = true ↔
            ∀ earlier ∈ arguments, ¬Reaches disk earlier file := by
          simp [mem_discover_iff tree]
        rw [known]

end Tree

/-! ### One path for each file -/

variable {disk : Disk} {root : Path} {arguments : List Path}

/-- A relative argument without steps upwards. -/
def IsDownward (argument : Path) : Prop := argument.isAbsolute = false ∧ ".." ∉ argument.segments

instance (argument : Path) : Decidable (IsDownward argument) :=
  inferInstanceAs (Decidable (_ ∧ _))

/-- What a downward argument reaches is named downwards from the root of the run. -/
theorem exists_names_of_reaches {argument file : Path} (downward : IsDownward argument)
    (reached : Reaches disk (root / argument) file) :
    ∃ names, ".." ∉ names ∧ file = ⟨root.root, root.segments ++ names⟩ := by
  obtain ⟨above, segments⟩ := argument
  obtain rfl : above = "" := by simpa [Path.isAbsolute] using downward.1
  obtain ⟨-, ⟨-, ⟨names, -, down, rfl⟩, -⟩ | ⟨rfl, -⟩⟩ := reached
  · -- below the argument, its own segments come first
    refine ⟨segments ++ names, ?_, ?_⟩
    · rw [List.mem_append]
      exact not_or.mpr ⟨downward.2, down⟩
    · rw [Path.div_relative, List.append_assoc]
  · exact ⟨segments, downward.2, rfl⟩

/-- No two of the files found lie at the same place. -/
theorem nodup_places_discover (tree : disk.IsTree)
    (downward : ∀ argument ∈ arguments, IsDownward argument) :
    ((discover disk (arguments.map (root / ·))).map disk.place).Nodup := by
  refine List.Nodup.map_on ?_ (nodup_discover disk _)
  have reached {file : Path} (member : file ∈ discover disk (arguments.map (root / ·))) :
      disk.isFile file = true ∧
        ∃ names, ".." ∉ names ∧ file = ⟨root.root, root.segments ++ names⟩ := by
    obtain ⟨target, isTarget, reaches⟩ := (mem_discover_iff tree).mp member
    obtain ⟨argument, isArgument, rfl⟩ := List.mem_map.mp isTarget
    exact ⟨reaches.1, exists_names_of_reaches (downward argument isArgument) reaches⟩
  intro left isLeft right isRight same
  obtain ⟨isFile, names, down, rfl⟩ := reached isLeft
  obtain ⟨-, others, down', rfl⟩ := reached isRight
  -- both paths go on behind the root by names, and these can be read off the common place
  obtain ⟨final, -, placed, -⟩ := Disk.isFile_iff.mp isFile
  obtain ⟨place, start, rfl⟩ := Disk.place_of_names down placed
  obtain ⟨place', start', whole⟩ := Disk.place_of_names down' (same.symm.trans placed)
  obtain rfl : place = place' := Except.ok.inj (start.symm.trans start')
  rw [List.append_cancel_left whole]

/-! ### Results -/

/-- Every file gets a result, whatever happens while it is analysed. -/
theorem exists_checkFile (grammar : Grammar) (disk : Disk) (settings : Settings)
    (checks : List CheckKind) (path : Path) :
    ∃ file events, checkFile (.available grammar) disk settings checks path = .ok (file, events) ∧
      path.toString = file.path := by
  have named (of : Path) (found : List Diagnostic) (fault : Option FileFault) :
      of.toString = (fileResult of checks found fault).path := by
    cases fault <;> rfl
  unfold checkFile
  split
  · exact ⟨_, _, rfl, rfl⟩
  · split
    · exact ⟨_, _, rfl, rfl⟩
    · exact ⟨_, _, rfl, named _ _ _⟩

theorem exists_results (grammar : Grammar) (disk : Disk) (settings : Settings)
    (checks : List CheckKind) (files : List Path) :
    ∃ results, (checkFiles (.available grammar) disk settings checks files).Yields results ∧
      List.Forall₂ (fun path file => path.toString = file.path) files results := by
  refine Run.yields_mapM fun path _ => ?_
  obtain ⟨file, events, done, named⟩ := exists_checkFile grammar disk settings checks path
  exact ⟨file,
    (Run.yields_of_ok done).bind ((Run.yields_report events).bind (Run.yields_pure file)), named⟩

/-- A run with known checks has one result for each of its files, in the same order. -/
theorem exists_result (grammar : Grammar) (disk : Disk) (settings : Settings) (root : Path)
    (arguments : List Path) {ids : List String}
    (known : ∀ id ∈ ids, id ∈ CheckKind.all.map CheckKind.id) (duration : Duration) :
    ∃ result, (check (.available grammar) disk settings root arguments ids duration).Yields
        result ∧
      result.files.map (·.path) = (discover disk (targets root arguments)).map Path.toString := by
  obtain ⟨checks, resolved, -⟩ := exists_resolved settings known
  obtain ⟨results, checked, named⟩ := exists_results grammar disk settings checks
    (discover disk (targets root arguments))
  refine ⟨⟨results, duration⟩, yields_check resolved checked duration, ?_⟩
  have paired : List.Forall₂ Eq ((discover disk (targets root arguments)).map Path.toString)
      (results.map (·.path)) :=
    List.forall₂_map_left_iff.mpr (List.forall₂_map_right_iff.mpr named)
  rw [List.forall₂_eq_eq_eq] at paired
  exact paired.symm

/-- On a disk that holds a tree, a run over downward arguments has one result for each Ruby file
that an argument reaches, and no others. No file has two results, not even under two paths. The
files come in groups, one for each argument: in ascending order, those that it is the first to
reach. So the same arguments in another order give the same files. -/
theorem check_of_reached {grammar : Grammar} {disk : Disk} (tree : disk.IsTree)
    (settings : Settings) (root : String) {arguments : List String} (nonempty : arguments ≠ [])
    (downward : ∀ argument ∈ arguments, IsDownward (Path.ofString argument)) {ids : List String}
    (known : ∀ id ∈ ids, id ∈ CheckKind.all.map CheckKind.id) (duration : Duration) :
    let run := fun arguments : List String => check (.available grammar) disk settings
      (Path.ofString root) (arguments.map Path.ofString) ids duration
    let reached := arguments.map fun argument => Path.ofString root / Path.ofString argument
    ∃ (result : AnalysisResult) (files : List Path), (run arguments).Yields result ∧
      result.files.map (·.path) = files.map Path.toString ∧
      (∀ file, file ∈ files ↔ ∃ argument ∈ reached, Reaches disk argument file) ∧
      (files.map disk.place).Nodup ∧ (result.files.map (·.path)).Nodup ∧
      (∃ groups, files = groups.flatten ∧ Grouped disk reached groups) ∧
      ∀ others : List String, others.Perm arguments →
        ∃ again, (run others).Yields again ∧
          (again.files.map (·.path)).Perm (result.files.map (·.path)) := by
  intro run reached
  have target {arguments : List String} (some : arguments ≠ []) :
      targets (Path.ofString root) (arguments.map Path.ofString) =
        (arguments.map Path.ofString).map (Path.ofString root / ·) := by
    rw [targets, if_neg (by simpa using some)]
  have here : reached = (arguments.map Path.ofString).map (Path.ofString root / ·) := by
    simp [reached]
  obtain ⟨result, yields, named⟩ := exists_result grammar disk settings (Path.ofString root)
    (arguments.map Path.ofString) known duration
  have distinct := nodup_toString_discover tree.proper (clean_targets root arguments)
  rw [target nonempty, ← here] at named distinct
  refine ⟨result, discover disk reached, yields, named, fun _ => mem_discover_iff tree, ?_,
    named ▸ distinct, exists_grouped tree reached, ?_⟩
  · rw [here]
    exact nodup_places_discover tree (by simpa using downward)
  · intro others perm
    obtain ⟨again, yields', named'⟩ := exists_result grammar disk settings (Path.ofString root)
      (others.map Path.ofString) known duration
    refine ⟨again, yields', ?_⟩
    -- neither run lists a file twice, so it is enough that they reach the same files
    rw [named, named', target fun none => nonempty (List.perm_nil.mp (none ▸ perm.symm)), here]
    refine List.Perm.map _ ((List.perm_ext_iff_of_nodup (nodup_discover disk _)
      (nodup_discover disk _)).mpr fun file => ?_)
    have same : ∀ argument, argument ∈ (others.map Path.ofString).map (Path.ofString root / ·) ↔
        argument ∈ (arguments.map Path.ofString).map (Path.ofString root / ·) :=
      fun argument => ((perm.map _).map _).mem_iff
    simp only [mem_discover_iff tree, same]

/-! Arguments that overlap, on a disk with a directory that is named like a Ruby file. -/

def overlappingDisk : Disk :=
  ⟨[], [(["app"], .directory), (["app", "jobs.rb"], .directory),
    (["app", "jobs.rb", "mail.rb"], .file ⟨#[]⟩), (["app", "user.rb"], .file ⟨#[]⟩),
    (["app", ".rb"], .file ⟨#[]⟩), (["app", "notes.txt"], .file ⟨#[]⟩)]⟩

def overlappingArguments : List String := ["app/user.rb", "missing", "app", "./app/jobs.rb/"]

def overlappingRun : Run AnalysisResult :=
  check (.available fun _ => .empty) overlappingDisk {} (Path.ofString "")
    (overlappingArguments.map Path.ofString) [] (.whole 0)

/-- The file below `jobs.rb` is reached by two arguments and has one result. -/
theorem check_of_reached_overlapping :
    overlappingDisk.IsTree ∧ overlappingArguments ≠ [] ∧
      (∀ argument ∈ overlappingArguments, IsDownward (Path.ofString argument)) ∧
      ∃ result, overlappingRun.Yields result ∧
        (result.files.map (·.path)).count "app/jobs.rb/mail.rb" = 1 := by
  have tree : overlappingDisk.IsTree := by decide +kernel
  have nonempty : overlappingArguments ≠ [] := by decide
  have downward : ∀ argument ∈ overlappingArguments, IsDownward (Path.ofString argument) := by
    decide +kernel
  obtain ⟨result, files, yields, named, members, -, distinct, -⟩ :=
    check_of_reached tree {} "" nonempty downward (List.forall_mem_nil _) (.whole 0)
  let mail : Path := ⟨"", ["app", "jobs.rb", "mail.rb"]⟩
  have reached : Reaches overlappingDisk ⟨"", ["app"]⟩ mail :=
    ⟨by decide +kernel, .inl ⟨by decide +kernel, ⟨["jobs.rb", "mail.rb"], by decide⟩,
      by decide +kernel⟩⟩
  have isArgument : (⟨"", ["app"]⟩ : Path) ∈ overlappingArguments.map fun argument =>
      Path.ofString "" / Path.ofString argument := by
    decide +kernel
  have found := (members mail).mpr ⟨_, isArgument, reached⟩
  have present : "app/jobs.rb/mail.rb" ∈ result.files.map (·.path) := by
    rw [named]
    exact List.mem_map.mpr ⟨mail, found, by decide +kernel⟩
  exact ⟨tree, nonempty, downward, result, yields, List.count_eq_one_of_mem distinct present⟩

end Check

end SpecLint
