import SpecLint.Disk.Basic

/-!
# Opening files for appending

A file that is opened for appending is made if there is none, and so are the directories that lead
to it. Nothing that is there already is changed.
-/
namespace SpecLint

/-- Why a file cannot be opened for appending. -/
inductive AppendFault where
  /-- The path leads to a directory. -/
  | directory
  /-- What should be the directory of the file is a file. -/
  | parentIsFile
  /-- A segment further up is a file. -/
  | throughFile
  /-- No name on a disk holds a NUL. -/
  | nulInName
  deriving DecidableEq, Repr

def AppendFault.message : AppendFault → String
  | directory => "is a directory"
  | parentIsFile => "lies in a file"
  | throughFile => "lies below a file"
  | nulInName => "has a NUL in its name"

namespace Disk

/-- Follow segments from a place and make the directories that are missing. -/
def leadOn (disk : Disk) (place : List String) :
    List String → Except AppendFault (Disk × List String)
  | [] => .ok (disk, place)
  | segment :: rest =>
    if segment = ".." then leadOn disk place.dropLast rest
    else
      let next := place ++ [segment]
      match disk.entryAt? next with
      | some .directory => leadOn disk next rest
      | some (.file _) => .error (if rest = [] then .parentIsFile else .throughFile)
      | none => leadOn (disk.set next .directory) next rest

def hasNul (name : String) : Bool := name.toList.contains '\x00'

/-- The disk with a file opened for appending. -/
def append (disk : Disk) (path : Path) : Except AppendFault Disk := do
  if path.parent.segments.any hasNul then throw .nulInName
  let start := if path.isAbsolute then [] else disk.here
  let (disk, place) ← disk.leadOn start path.parent.segments
  if hasNul path.name then throw .nulInName
  if path.segments = [] ∨ path.name = ".." then throw .directory
  let target := place ++ [path.name]
  match disk.entryAt? target with
  | some .directory => throw .directory
  | some (.file _) => return disk
  | none => return disk.set target (.file ⟨#[]⟩)

end Disk

end SpecLint
