import SpecLint.Path.Basic
import SpecLint.Text.Utf8
import SpecLint.Text.Lines
import SpecLint.Text.Quoted

/-!
# The disk

A disk is a set of files and directories named by their segments below the root. Every directory
that leads to an entry is itself an entry. Relative paths start from the working directory, and `..`
is followed on the disk: it only leads somewhere from a directory that exists.

There are no links and no other kinds of entries, every entry may be read and every directory
searched, and names may be of any length. Paths with a NUL in them, which no system call takes, are
asked about like all others.
-/
namespace SpecLint

inductive Entry where
  | file (bytes : ByteArray)
  | directory

def Entry.isFile : Entry → Bool
  | file _ => true
  | directory => false

def Entry.isDirectory (entry : Entry) : Bool := !entry.isFile

structure Disk where
  /-- The segments of the working directory. -/
  here : List String
  entries : List (List String × Entry)

/-- Why a path cannot be read as a file. -/
inductive ReadFault where
  | missing
  | directory
  /-- A segment before the last is a file. -/
  | throughFile
  deriving DecidableEq, Repr

/-- How messages call a fault. -/
def ReadFault.kind : ReadFault → String
  | .missing => "FileNotFoundError"
  | .directory => "IsADirectoryError"
  | .throughFile => "NotADirectoryError"

/-- What the operating system says about the fault. -/
def ReadFault.message (fault : ReadFault) (path : Path) : String :=
  let shown := String.ofList (Text.quoted path.toString.toList)
  match fault with
  | missing => "[Errno 2] No such file or directory: " ++ shown
  | directory => "[Errno 21] Is a directory: " ++ shown
  | throughFile => "[Errno 20] Not a directory: " ++ shown

namespace Disk

/-- The entry at a place; the root is always there. -/
def entryAt? (disk : Disk) (place : List String) : Option Entry :=
  if place = [] then some .directory
  else (disk.entries.find? fun entry => entry.1 == place).map (·.2)

/-- Follow segments from a place. Each step needs a directory to start from. -/
def follow (disk : Disk) : List String → List String → Except ReadFault (List String)
  | place, [] => .ok place
  | place, segment :: rest =>
    match disk.entryAt? place with
    | none => .error .missing
    | some (.file _) => .error .throughFile
    | some .directory =>
      if segment = ".." then follow disk place.dropLast rest
      else follow disk (place ++ [segment]) rest

/-- The place a path leads to. -/
def place (disk : Disk) (path : Path) : Except ReadFault (List String) :=
  disk.follow (if path.isAbsolute then [] else disk.here) path.segments

/-- The entry a path leads to. -/
def lookUp (disk : Disk) (path : Path) : Except ReadFault Entry :=
  match disk.place path with
  | .error fault => .error fault
  | .ok place =>
    match disk.entryAt? place with
    | none => .error .missing
    | some entry => .ok entry

def isFile (disk : Disk) (path : Path) : Bool :=
  match disk.lookUp path with
  | .ok entry => entry.isFile
  | .error _ => false

def isDirectory (disk : Disk) (path : Path) : Bool :=
  match disk.lookUp path with
  | .ok entry => entry.isDirectory
  | .error _ => false

def exists? (disk : Disk) (path : Path) : Bool := (disk.lookUp path).isOk

def readBytes (disk : Disk) (path : Path) : Except ReadFault ByteArray :=
  match disk.lookUp path with
  | .error fault => .error fault
  | .ok (.file bytes) => .ok bytes
  | .ok .directory => .error .directory

/-- The text of a file: invalid bytes are replaced and line ends unified. -/
def readText (disk : Disk) (path : Path) : Except ReadFault String :=
  (disk.readBytes path).map fun bytes =>
    String.ofList (Text.unifyLines (Text.decode bytes).toList)

/-- Put an entry at a place, replacing what was there. -/
def set (disk : Disk) (place : List String) (entry : Entry) : Disk :=
  { disk with entries := disk.entries.filter (·.1 != place) ++ [(place, entry)] }

/-- Make a directory unless something is there already. -/
def makeDirectory (disk : Disk) (place : List String) : Disk :=
  if (disk.entryAt? place).isSome then disk else disk.set place .directory

/-- Make all directories down to a place. -/
def makeDirectories (disk : Disk) : List String → List String → Disk
  | _, [] => disk
  | above, segment :: rest =>
    makeDirectories (disk.makeDirectory (above ++ [segment])) (above ++ [segment]) rest

/-- A disk that holds nothing but the working directory. -/
def empty (here : List String) : Disk := makeDirectories ⟨here, []⟩ [] here

/-- Where a new entry goes: `..` takes one segment away. -/
def target (disk : Disk) (path : Path) : List String :=
  path.segments.foldl
    (fun place segment => if segment = ".." then place.dropLast else place ++ [segment])
    (if path.isAbsolute then [] else disk.here)

/-- Put an entry at a path, making the directories that lead to it. -/
def write (disk : Disk) (path : Path) (entry : Entry) : Disk :=
  let place := disk.target path
  (disk.makeDirectories [] place.dropLast).set place entry

/-- Remove a file. -/
def delete (disk : Disk) (path : Path) : Disk :=
  let place := disk.target path
  { disk with entries := disk.entries.filter (·.1 != place) }

/-- The names in a directory. -/
def names (disk : Disk) (directory : List String) : List String :=
  disk.entries.filterMap fun entry =>
    if entry.1.dropLast = directory then entry.1.getLast? else none

/-- The segments below a directory of all files in it, at any depth. -/
def filesBelow (disk : Disk) (directory : List String) : List (List String) :=
  disk.entries.filterMap fun entry =>
    if entry.2.isFile ∧ directory.isPrefixOf entry.1 ∧ directory ≠ entry.1 then
      some (entry.1.drop directory.length)
    else none

/-- A path that reads is a file. -/
theorem isFile_of_readBytes {disk : Disk} {path : Path} {bytes : ByteArray}
    (read : disk.readBytes path = .ok bytes) : disk.isFile path = true := by
  simp only [readBytes] at read
  simp only [isFile]
  cases found : disk.lookUp path with
  | error fault => simp [found] at read
  | ok entry => cases entry <;> simp_all [Entry.isFile]

/-- Exactly the files read. -/
theorem isFile_iff_readBytes {disk : Disk} {path : Path} :
    disk.isFile path = true ↔ ∃ bytes, disk.readBytes path = .ok bytes := by
  constructor
  · intro file
    simp only [isFile] at file
    cases found : disk.lookUp path with
    | error fault => simp [found] at file
    | ok entry =>
      cases entry with
      | file bytes => exact ⟨bytes, by simp [readBytes, found]⟩
      | directory => simp [found, Entry.isFile] at file
  · rintro ⟨bytes, read⟩
    exact isFile_of_readBytes read

theorem entryAt?_set (disk : Disk) (place other : List String) (entry : Entry)
    (below : place ≠ []) :
    (disk.set place entry).entryAt? other =
      if other = place then some entry else disk.entryAt? other := by
  by_cases top : other = []
  · simp [entryAt?, top, below.symm]
  · simp only [entryAt?, top, if_false, set, List.find?_append, List.find?_cons, List.find?_nil]
    by_cases same : other = place
    · subst same
      have gone :
          (disk.entries.filter (·.1 != other)).find? (fun entry => entry.1 == other) = none := by
        rw [List.find?_eq_none]
        intro found member
        simp only [List.mem_filter, bne_iff_ne, ne_eq] at member
        simp [member.2]
      simp [gone]
    · have kept : (disk.entries.filter (·.1 != place)).find? (fun entry => entry.1 == other) =
          disk.entries.find? (fun entry => entry.1 == other) := by
        induction disk.entries with
        | nil => rfl
        | cons first rest ih =>
          by_cases skip : first.1 = place
          · have differs : (first.1 == other) = false := by
              simp only [beq_eq_false_iff_ne, ne_eq, skip]
              exact fun equal => same equal.symm
            simp [skip, List.find?_cons, ih]
            rw [skip] at differs
            simp [differs]
          · simp [skip, List.find?_cons, ih]
      have last : (place == other) = false := by
        simp only [beq_eq_false_iff_ne, ne_eq]
        exact fun equal => same equal.symm
      rw [kept]
      simp [last, same]

end Disk

end SpecLint
