import SpecLint.Disk.Basic
import SpecLint.Report.Failure
import SpecLint.Settings.Environment
import SpecLint.Settings.Sections
import SpecLint.Text.Lines
import SpecLint.Yaml.Reader

/-!
# Loading settings

Settings come from the configuration file of the project, environment variables and overrides.
Later sources win option by option, and what none of them sets has its default. All sources are
merged first, from the last one back, and read afterwards, so a problem in a value that is
overridden does no harm. The first problem is the failure that is reported.

The file is taken whole before anything in it is read, and data may nest to any depth.
-/
namespace SpecLint

open SpecLint.Data SpecLint.Report SpecLint.Settings

/-- Why no settings are loaded. -/
inductive LoadFault where
  /-- The file is malformed or a value cannot be used. -/
  | failure (failure : Failure)
  | unreadable (fault : ReadFault)
  | undecodable
  /-- The file holds a scalar without meaning. -/
  | unfit (misfit : Yaml.Misfit)
  /-- A section is set twice and its parts cannot be merged. -/
  | unmergeable (fault : MergeFailure)
  | malformedVariable
  /-- The file has a top-level key that is no text. -/
  | keyNotText
  /-- A complaint that stops the reading. -/
  | stopped (complaint : Complaint)
  /-- The first problem is with data that cannot be written. -/
  | unwritable

def LoadFault.message : LoadFault → String
  | .failure cause => cause.summary
  | unreadable .missing => "the configuration file is missing"
  | unreadable .directory => "the configuration file is a directory"
  | unreadable .throughFile => "the configuration file lies below a file"
  | undecodable => "the configuration file is not in UTF-8"
  | unfit misfit => "the configuration file holds an impossible value: " ++ misfit.message
  | unmergeable _ => "a section is set twice and cannot be merged"
  | malformedVariable => "an environment variable holds malformed JSON"
  | keyNotText => "a name in the configuration file is no text"
  | stopped complaint => complaint.message
  | unwritable => "the settings hold a number that is too long"

/-- Where settings come from. -/
structure Sources where
  disk : Disk
  /-- The directory of the project. -/
  root : Path
  environment : Environment := []
  /-- Sections that win over all others. -/
  overrides : List (String × Value) := []
  /-- Home directories, for log files. -/
  homes : Homes

namespace Sources

def fileName : String := ".specparity.yml"

def file (sources : Sources) : Path := sources.root.child fileName

/-- The text of the configuration file; none if there is no such file. -/
def fileText (sources : Sources) : Except LoadFault (Option (List Char)) :=
  if !sources.disk.exists? sources.file then .ok none
  else match sources.disk.readBytes sources.file with
    | .error fault => .error (.unreadable fault)
    | .ok bytes => match String.fromUTF8? bytes with
      | some text => .ok (some (Text.unifyLines text.toList))
      | none => .error .undecodable

/-- What the text of a configuration file says. An empty document, and anything that counts as
nothing, sets nothing. -/
def parseFile (path : String) (text : List Char) : Except LoadFault Entries :=
  let failed (reason : String) : LoadFault := .failure (.configSyntax path reason)
  match Yaml.read text with
  | .error (.unfit misfit) => .error (.unfit misfit)
  | .error fault => .error (failed fault.message)
  | .ok document =>
    let value := document.getD .null
    if value.isNothing then .ok []
    else match value.bare with
      | .map entries => .ok entries
      | _ => .error (failed "top-level value must be a mapping")

/-- The sections that the configuration file sets. -/
def fromFile (sources : Sources) : Except LoadFault Entries := do
  match ← sources.fileText with
  | none => return []
  | some text =>
    let entries ← parseFile sources.file.toString text
    (normalizeSections entries).mapError .unmergeable

/-- The sections that environment variables set. -/
def fromEnvironment (sources : Sources) : Except LoadFault Entries :=
  (ofEnvironment sources.environment).mapError fun _ => .malformedVariable

/-- The overrides, those of known sections first. Sections are known in any case of letters; of
several overrides for one section, the first counts. -/
def fromOverrides (sources : Sources) : Entries :=
  let sameName (section' : String) (entry : String × Value) : Bool := lowerName entry.1 == section'
  let known := sectionNames.filterMap fun name =>
    (sources.overrides.find? (sameName name)).map fun entry => (Scalar.text name, entry.2)
  let others := sources.overrides.filter fun entry => !sectionNames.any (sameName · entry)
  known ++ others.map fun (name, value) => (.text name, value)

/-- All sources in one, later ones over earlier ones. -/
def merge (file environment overrides : Entries) : Entries :=
  mergeEntries file (mergeEntries environment overrides)

/-- The failure that tells of a problem. -/
def failureOf (problem : Problem) : Failure :=
  .configValue (".".intercalate problem.place) problem.input problem.complaint.message

/-- Whether a key can name a section at all. -/
def isName : Scalar → Bool
  | .text _ => true
  | _ => false

/-- What reading merged sections comes to. -/
def outcome (result : Validated Settings) : Except LoadFault Settings :=
  match result, result.stop? with
  | .valid settings, _ => .ok settings
  | .invalid _ _, some stop => .error (.stopped stop.complaint)
  | .invalid problem _, none =>
    if problem.input.isWritable then .error (.failure (failureOf problem)) else .error .unwritable

/-- Read merged sections. -/
def interpret (homes : Homes) (entries : Entries) : Except LoadFault Settings :=
  if entries.all fun entry => isName entry.1 then outcome (Settings.readStrictly homes entries)
  else .error .keyNotText

/-- The settings that hold for a project. -/
def load (sources : Sources) : Except LoadFault Settings := do
  let file ← sources.fromFile
  let environment ← sources.fromEnvironment
  interpret sources.homes (merge file environment sources.fromOverrides)

end Sources

end SpecLint
