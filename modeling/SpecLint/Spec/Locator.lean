import SpecLint.Spec.Cache
import SpecLint.Spec.Headers
import SpecLint.Glob.Basic

/-!
# Spec files of a unit

The spec of `app/models/user.rb` is `spec/models/user_spec.rb`; files beside it named
`user_*_spec.rb` belong to the unit as well if they describe it. The name of the source file is part
of a wildcard, so wildcard signs in it keep their meaning, and two stars in a row are refused.
-/
namespace SpecLint.Spec

open SpecLint.Data SpecLint.Report

/-- The spec files of one unit. -/
structure Candidates where
  /-- Where the spec is expected. -/
  base : Option Path
  paths : List Path
  deriving DecidableEq, Repr

namespace Candidates

/-- The path that messages name: the first file, or else the expected one. -/
def primary (candidates : Candidates) : Option Path := candidates.paths.head?.or candidates.base

def toValue (candidates : Candidates) : Value :=
  let written (path : Path) : Value := .text path.toString
  .record [("base", .optional written candidates.base),
    ("paths", .list (candidates.paths.map written)), ("len", .nat candidates.paths.length),
    ("any", .bool (!candidates.paths.isEmpty)), ("primary", .optional written candidates.primary)]

end Candidates

/-- A wildcard with two stars in a row, which no file name pattern may have. -/
inductive WildcardFault where
  | doubledStar
  deriving DecidableEq, Repr

def WildcardFault.message : WildcardFault → String
  | .doubledStar => "Invalid pattern: '**' can only be an entire path component"

/-- Whether two stars follow each other. -/
def hasDoubledStar : List Char → Bool
  | '*' :: '*' :: _ => true
  | _ :: rest => hasDoubledStar rest
  | [] => false

/-- The wildcard for further specs of the unit. -/
def wildcard (base : Path) : String :=
  String.ofList (base.name.toList.take (base.name.toList.length - Layout.specEnding.toList.length))
    ++ "_*" ++ Layout.specEnding

/-- The entries beside the expected spec that match the wildcard, in ascending order. -/
def wildcardPaths (disk : Disk) (base : Path) : Except WildcardFault (List Path) :=
  if hasDoubledStar (wildcard base).toList then .error .doubledStar
  else
    let names :=
      match disk.place base.parent with
      | .ok place => if disk.isDirectory base.parent then disk.names place else []
      | .error _ => []
    let accepted := names.filter (Glob.matchSegment (wildcard base))
    .ok ((accepted.map base.parent.child).mergeSort Path.le)

/-- Keep a wildcard file if it describes the unit. -/
def considerWildcard (project : Project) (unit : String) (kept : List Path) (path : Path) :
    StateM Cache (List Path) := do
  if kept.contains path then return kept
  else if !(← Cache.isFile project path) then return kept
  else
    let parsed ← Cache.parsed project path
    if declaresUnit parsed.root unit then return kept ++ [path]
    else
      modify (Cache.report [.wildcardRejected path.toString unit])
      return kept

/-- The spec files of a unit of a source file. Without a name for the unit only the expected file
counts. -/
def locate (project : Project) (source : Path) (unit : Option String) :
    ExceptT WildcardFault (StateM Cache) Candidates := do
  match Layout.expectedSpec? source with
  | none => return ⟨none, []⟩
  | some base =>
    let own := if ← Cache.isFile project base then [base] else []
    match unit with
    | none => return ⟨some base, own⟩
    | some unit =>
      if unit = "" then return ⟨some base, own⟩
      else
        let further ← (wildcardPaths project.disk base : Except WildcardFault (List Path))
        let paths ← (further.foldlM (considerWildcard project unit) own : StateM Cache (List Path))
        return ⟨some base, paths⟩

end SpecLint.Spec
