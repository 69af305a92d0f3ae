import SpecLint.Text.Split

/-!
# Paths

A path is a root and the segments below it. Repeated slashes and `.` segments carry no meaning and
are dropped when a path is read; `..` stays, because only the disk can say where it leads. A path
that starts with exactly two slashes keeps both.
-/
namespace SpecLint

open SpecLint.Text

structure Path where
  /-- Empty for a relative path, otherwise one or two slashes. -/
  root : String
  segments : List String
  deriving DecidableEq, Repr

namespace Path

/-- The directory a relative path starts from. -/
def here : Path := ⟨"", []⟩

def ofString (written : String) : Path :=
  let chars := written.toList
  let slashes := (chars.takeWhile (· = '/')).length
  let root := if slashes = 0 then "" else if slashes = 2 then "//" else "/"
  let segments := (splitOn '/' chars).filter fun segment => segment ≠ [] ∧ segment ≠ ['.']
  ⟨root, segments.map String.ofList⟩

def toString (path : Path) : String :=
  if path.root = "" ∧ path.segments = [] then "."
  else path.root ++ "/".intercalate path.segments

instance : ToString Path := ⟨toString⟩

def isAbsolute (path : Path) : Bool := path.root ≠ ""

/-- The root, if there is one, followed by the segments. -/
def parts (path : Path) : List String :=
  if path.root = "" then path.segments else path.root :: path.segments

/-- The path with these parts; a first part of slashes is its root. -/
def ofParts : List String → Path
  | [] => here
  | first :: rest =>
    if first = "/" ∨ first = "//" then ⟨first, rest⟩ else ⟨"", first :: rest⟩

/-- Continue a path; an absolute continuation replaces it. -/
def join (base next : Path) : Path :=
  if next.isAbsolute then next else ⟨base.root, base.segments ++ next.segments⟩

instance : Div Path := ⟨join⟩

def child (directory : Path) (name : String) : Path :=
  ⟨directory.root, directory.segments ++ [name]⟩

def parent (path : Path) : Path := ⟨path.root, path.segments.dropLast⟩

/-- The last segment, empty for a path without segments. -/
def name (path : Path) : String := path.segments.getLast?.getD ""

/-- A name cut before its last dot, unless that dot is its first or last character. -/
def cutSuffix (name : List Char) : List Char × List Char :=
  let after := (name.reverse.takeWhile (· ≠ '.')).reverse
  let before := name.take (name.length - after.length - 1)
  if '.' ∈ name ∧ after ≠ [] ∧ before ≠ [] then (before, '.' :: after) else (name, [])

def stem (path : Path) : String := String.ofList (cutSuffix path.name.toList).1

def suffix (path : Path) : String := String.ofList (cutSuffix path.name.toList).2

theorem join_relative (base next : Path) (relative : next.isAbsolute = false) :
    (base / next).segments = base.segments ++ next.segments := by
  change (join base next).segments = _
  simp [join, relative]

/-- A path without a root has its segments as parts. -/
theorem parts_relative (segments : List String) : (Path.mk "" segments).parts = segments := rfl

theorem parent_child (directory : Path) (name : String) :
    (directory.child name).parent = directory := by
  simp [child, parent]

theorem name_child (directory : Path) (name : String) : (directory.child name).name = name := by
  simp [child, Path.name]

/-- Lists of parts in dictionary order. -/
def partsLe : List String → List String → Bool
  | [], _ => true
  | _ :: _, [] => false
  | left :: lefts, right :: rights =>
    if left = right then partsLe lefts rights else decide (left < right)

/-- Paths are ordered by their parts. -/
def le (left right : Path) : Bool := partsLe left.parts right.parts

theorem partsLe_refl (parts : List String) : partsLe parts parts = true := by
  induction parts with
  | nil => rfl
  | cons part rest ih => simp [partsLe, ih]

theorem le_refl (path : Path) : path.le path = true := partsLe_refl _

/-- The part of `path` below `base`, if it lies there. -/
def relativeTo? (path base : Path) : Option Path :=
  if base.root = path.root ∧ base.segments.isPrefixOf path.segments then
    some ⟨"", path.segments.drop base.segments.length⟩
  else none

theorem relativeTo?_join (base next : Path) (relative : next.root = "") :
    (base / next).relativeTo? base = some next := by
  change (join base next).relativeTo? base = some next
  obtain ⟨root, segments⟩ := next
  subst relative
  simp [join, isAbsolute, relativeTo?]

end Path

end SpecLint
