import SpecLint.CommandLine.Run
import SpecLint.Json.Reader
import SpecLint.Snapshot

/-!
# Handing over the surroundings

What the program finds around it is handed over as one JSON record: the files of the project with
their trees, environment variables, the home directory, the time and an id for the run. The working
directory is called `/proj`.
-/
namespace SpecLint.CommandLine

open SpecLint.Data

/-- The working directory. -/
def workingDirectory : List String := ["proj"]

namespace Surroundings

def textAt (record : Entries) (name : String) : String :=
  match Entries.getText? record name with
  | some (.scalar (.text written)) => written
  | _ => ""

def entriesAt (record : Entries) (name : String) : Entries :=
  match Entries.getText? record name with
  | some (.map entries) => entries
  | _ => []

/-- Environment variables by name. -/
def environmentOf (entries : Entries) : Settings.Environment :=
  entries.map fun (name, written) => ((Value.scalar name).rendered, written.rendered)

/-- The surroundings that a record describes. -/
def ofEntries (record : Entries) : Surroundings :=
  let snapshot := Snapshot.ofFiles workingDirectory (entriesAt record "files")
  { disk := snapshot.disk
    installation := snapshot.installation
    environment := environmentOf (entriesAt record "env")
    homes := ⟨textAt record "home", usualUsers⟩
    time := textAt record "time"
    runId := textAt record "run_id"
    duration := .measured (.ofDecimal false 0 0) }

/-- The surroundings that a JSON text describes; `none` if it is no record. -/
def ofJson? (text : String) : Option Surroundings :=
  match Json.parse text with
  | some (.map record) => some (ofEntries record)
  | _ => none

end Surroundings

end SpecLint.CommandLine
