import SpecLint.Disk.Append
import SpecLint.Report.Message

/-!
# The log

The log has a level and any number of outputs, each with a level of its own. A message below the
level of the log is dropped; any other reaches every output whose level it has. While a live display
owns the terminal the console outputs are suspended and the files still receive everything.
-/
namespace SpecLint.Report

/-- One output of the log. -/
structure Channel where
  format : LogFormat
  destination : Destination
  level : Level
  deriving DecidableEq, Repr

structure Log where
  level : Level
  channels : List Channel
  /-- Whether a live display owns the terminal. -/
  suspended : Bool := false
  /-- The id of the current run. -/
  runId : Option String := none

namespace Log

/-- An output without a level of its own has that of the log. -/
def channelOf (logging : LoggingSettings) (output : OutputSettings) : Channel :=
  ⟨output.format, output.destination, output.level.getD logging.level⟩

/-- Replace all outputs. -/
def configure (logging : LoggingSettings) (log : Log) : Log :=
  { log with level := logging.level, channels := logging.outputs.map (channelOf logging) }

/-- The disk once the files of a log are open. -/
def openFiles (log : Log) (disk : Disk) : Except AppendFault Disk :=
  log.channels.foldlM (fun disk channel => match channel.destination with
    | .file path => disk.append (Path.ofString path)
    | _ => .ok disk) disk

/-- A log that nothing listens to. -/
def silent : Log := { level := .warning, channels := [] }

def ofSettings (logging : LoggingSettings) : Log := silent.configure logging

/-- A live display takes over the terminal. -/
def suspendConsole (log : Log) : Log := { log with suspended := true }

/-- The display is gone, however many were started. -/
def resumeConsole (log : Log) : Log := { log with suspended := false }

/-- The outputs that receive a message of some level. -/
def receivers (log : Log) (level : Level) : List Channel :=
  log.channels.filter fun channel =>
    decide (log.level.rank ≤ level.rank) && decide (channel.level.rank ≤ level.rank) &&
      (!channel.destination.isConsole || !log.suspended)

/-- What is written where for a message. -/
def deliver (log : Log) (time : String) (message : Message) : List (Destination × String) :=
  (log.receivers message.level).map fun channel =>
    (channel.destination, message.line channel.format time log.runId)

/-- A log on the console alone changes no disk. -/
theorem openFiles_console (log : Log) (disk : Disk)
    (console : ∀ channel ∈ log.channels, channel.destination.isConsole = true) :
    log.openFiles disk = .ok disk := by
  simp only [openFiles]
  generalize log.channels = channels at console
  induction channels with
  | nil => rfl
  | cons channel rest ih =>
    have here := console channel List.mem_cons_self
    have others := ih fun other member => console other (List.mem_cons_of_mem _ member)
    rw [List.foldlM_cons]
    cases kind : channel.destination with
    | stderr => exact others
    | stdout => exact others
    | file path => simp [kind, Destination.isConsole] at here

/-- An output receives a message exactly if the log and the output have its level and the console,
if the output is one, is not suspended. -/
theorem mem_receivers (log : Log) (level : Level) (channel : Channel) :
    channel ∈ log.receivers level ↔
      channel ∈ log.channels ∧ log.level.rank ≤ level.rank ∧ channel.level.rank ≤ level.rank ∧
        (channel.destination.isConsole = true → log.suspended = false) := by
  simp only [receivers, List.mem_filter, Bool.and_eq_true, decide_eq_true_eq, Bool.or_eq_true,
    Bool.not_eq_true', and_assoc]
  cases channel.destination.isConsole <;> simp

/-- Suspending the console changes nothing for files. -/
theorem receivers_suspend_file (log : Log) (level : Level) (channel : Channel)
    (file : channel.destination.isConsole = false) :
    channel ∈ log.suspendConsole.receivers level ↔
      channel ∈ log.resumeConsole.receivers level := by
  simp [mem_receivers, suspendConsole, resumeConsole, file]

end Log

end SpecLint.Report
