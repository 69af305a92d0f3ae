import SpecLint.CommandLine.Handover

/-!
# Entry point

The surroundings are read from standard input. Log lines for a file are written to standard error
behind the name of the file, all others where they belong.
-/
open SpecLint SpecLint.CommandLine

/-- Everything that is left of a stream. -/
partial def readRest (stream : IO.FS.Stream) (before : String) : IO String := do
  let line ← stream.getLine
  if line.isEmpty then return before else readRest stream (before ++ line)

/-- Write what the log received. -/
def writeLog (output errors : IO.FS.Stream) (logged : List (Destination × String)) : IO PUnit :=
  logged.forM fun (destination, line) => match destination with
    | .stdout => output.putStrLn line
    | .stderr => errors.putStrLn line
    | .file path => errors.putStrLn (path ++ ": " ++ line)

def main (arguments : List String) : IO UInt32 := do
  let output ← IO.getStdout
  let errors ← IO.getStderr
  match Surroundings.ofJson? (← readRest (← IO.getStdin) "") with
  | none =>
    errors.putStrLn "Error: the surroundings are no JSON record"
    return 1
  | some surroundings =>
    let outcome := CommandLine.run surroundings arguments
    writeLog output errors outcome.logged
    outcome.output.forM output.putStrLn
    outcome.errors.forM errors.putStrLn
    outcome.crash.forM fun crash => errors.putStrLn ("Error: " ++ crash.message)
    return outcome.exit.toUInt32
