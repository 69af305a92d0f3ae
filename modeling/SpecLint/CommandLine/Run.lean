import SpecLint.Check.Run
import SpecLint.CommandLine.Help
import SpecLint.CommandLine.Summary
import SpecLint.Report.Log
import SpecLint.Settings.Load
import SpecLint.Text.Escapes

/-!
# The program

Given what it finds around it and its arguments, the program comes to an exit status, what it writes
to standard output and standard error, and what its log receives. Faults in the arguments end with
status 2, failures with status 1. What is written is free of orders to a terminal, but for status
lines, which have a markup of their own.
-/
namespace SpecLint.CommandLine

open SpecLint.Code SpecLint.Check SpecLint.Report SpecLint.Settings

/-- What the program finds around it. -/
structure Surroundings where
  disk : Disk
  installation : Installation
  environment : Environment
  homes : Homes
  /-- The time that log lines show. -/
  time : String
  /-- The id of this run. -/
  runId : String
  /-- How long a run takes. -/
  duration : Duration

/-- Why the program neither comes to a result nor fails in an orderly way. -/
inductive Crash where
  | settings (fault : LoadFault)
  /-- A file of the log cannot be opened. -/
  | log (fault : AppendFault)
  /-- A status line cannot be shown. -/
  | markup (fault : MarkupFault)

def Crash.message : Crash → String
  | settings fault => fault.message
  | log fault => "a file of the log " ++ fault.message
  | markup fault => fault.message

structure Outcome where
  exit : Nat
  output : List String := []
  errors : List String := []
  logged : List (Destination × String) := []
  crash : Option Crash := none

/-- A line as it is written where there is no terminal. -/
def written (line : String) : String := String.ofList (Text.withoutOrders line.toList)

namespace Outcome

/-- An error that ends the program. -/
def failed (failure : Failure) (logged : List (Destination × String)) : Outcome :=
  { exit := 1, errors := [written ("Error: " ++ failure.summary)], logged }

/-- A fault in the arguments. -/
def refused (place : Place) (fault : UsageFault) : Outcome :=
  { exit := 2, errors := (place.complaint fault).map written }

def crashed (crash : Crash) : Outcome := { exit := 1, crash := some crash }

end Outcome

/-- The log of a run: everything on standard error if asked for, or else as the settings say. -/
def logOf (surroundings : Surroundings) (request : CheckRequest) (settings : Settings) : Log :=
  let logging : LoggingSettings := if request.verbose then { level := .debug } else settings.logging
  { Log.ofSettings logging with runId := some surroundings.runId }

/-- Check a project under loaded settings, with the log open. -/
def checkProject (surroundings : Surroundings) (request : CheckRequest) (settings : Settings)
    (log : Log) : Outcome :=
  let root := resolve surroundings.disk request.root
  let arguments := request.paths.map (resolve surroundings.disk)
  let run := Check.check surroundings.installation surroundings.disk settings root arguments
    request.checks surroundings.duration
  let (result, events) := (ExceptT.run run).run []
  let write (log : Log) (event : Event) := log.deliver surroundings.time (.ofEvent event)
  let logged := events.flatMap (write log)
  match result with
  | .error failure => .failed failure logged
  | .ok result =>
    let exit := exitStatus result
    if request.json then { exit, output := [Json.pretty result.toValue], logged }
    else
      let (shown, fault) := shownNotices (notices root result)
      let told := shown.flatMap fun (notice, _) => write { log with runId := none } notice.event
      { exit := if fault.isSome then 1 else exit
        output := result.diagnostics.map fun finding => written (findingLine root finding)
        errors := shown.map (·.2)
        logged := logged ++ told
        crash := fault.map .markup }

/-- Load the settings of the project, open the log and check the project. -/
def runCheck (surroundings : Surroundings) (request : CheckRequest) : Outcome :=
  match pathFault? surroundings.disk request with
  | some fault => .refused .check fault
  | none =>
    let root := resolve surroundings.disk request.root
    let sources : Sources :=
      ⟨surroundings.disk, root, surroundings.environment, [], surroundings.homes⟩
    match sources.load with
    | .error (.failure failure) => .failed failure []
    | .error fault => .crashed (.settings fault)
    | .ok settings =>
      let log := logOf surroundings request settings
      match log.openFiles surroundings.disk with
      | .error fault => .crashed (.log fault)
      | .ok disk => checkProject { surroundings with disk } request settings log

/-- Run the program. -/
def run (surroundings : Surroundings) (arguments : List String) : Outcome :=
  match readRequest arguments with
  | .error (place, fault) => .refused place fault
  | .ok .version => { exit := 0, output := [versionLine] }
  | .ok (.help place) => { exit := 0, output := place.help }
  | .ok .nothing => { exit := 2, errors := Place.program.help }
  | .ok (.check request) => runCheck surroundings request

end SpecLint.CommandLine
