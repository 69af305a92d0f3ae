import SpecLint.Json.Writer
import SpecLint.Settings.Basic

/-!
# Log messages

A message has a level, a text and fields, and may name its logger. It is written as one line: either
a JSON record of everything in a fixed order, or the time, the level and the text with the fields in
the order of their names, and below it what is known of a stack and of an exception. While a run is
going on, its id is written with every message.
-/
namespace SpecLint.Report

open SpecLint.Data SpecLint.Text

structure Message where
  level : Level
  text : String
  /-- Empty for none. -/
  logger : String := ""
  fields : Entries := []

namespace Message

/-- The message of an event. -/
def ofEvent (event : Event) : Message where
  level := event.level
  text := event.name
  fields := event.fields.map fun (name, value) => (.text name, value)

/-- Names of fields that the log uses for itself and does not write. -/
def hiddenNames : List String := ["_record", "_from_structlog"]

/-- Names that fields cannot have, since the message has parts of these names; the last one only
once the message passes the level of the log. -/
def isAmbiguous (message : Message) (passes : Bool) : Bool :=
  let taken := ["event", "self"] ++ if passes then ["method_name"] else []
  message.fields.any fun (key, _) => taken.any fun name => key == .text name

/-- All that is written: the logger, the fields, the text, the level, the time and the run. -/
def entries (message : Message) (time : String) (runId : Option String) : Entries :=
  let put (name value : String) (entries : Entries) : Entries :=
    Entries.put (.text name) (.text value) entries
  let logger : Entries :=
    if message.logger = "" then [] else [(.text "logger", .text message.logger)]
  let written := message.fields.filter fun (key, _) =>
    !hiddenNames.any fun name => key == .text name
  let fields := written.foldl (fun entries (name, value) => Entries.put name value entries) logger
  let timed := fields |> put "event" message.text |> put "level" message.level.name |>
    put "timestamp" time
  match runId with
  | some id => if id = "" then timed else put "run_id" id timed
  | none => timed

/-- A text with one of these is quoted on a console. -/
def needsQuotes (c : Char) : Bool := [' ', '\t', '=', '\r', '\n', '"', '\''].contains c

/-- A value on a console: a text stands bare if it can. -/
def consoleValue : Value → List Char
  | .scalar (.text written) =>
    if written.toList.any needsQuotes then quoted written.toList else written.toList
  | value => value.inner

/-- The columns that lead a line on a console, with what surrounds each. -/
def consoleColumns : List (String × String × String) :=
  [("timestamp", "", ""), ("level", "[", "]"), ("event", "", ""), ("logger", "[", "]"),
    ("logger_name", "[", "]")]

/-- The names of what is written below the line. -/
def attachedNames : List String := ["stack", "exception", "exc_info"]

/-- The first line on a console. -/
def consoleHead (entries : Entries) : String :=
  let columns := consoleColumns.filterMap fun (name, before, after) =>
    (Entries.getText? entries name).map fun value => before ++ value.rendered ++ after
  let others := entries.filterMap fun (key, value) => match key with
    | .text name =>
      if consoleColumns.any (·.1 == name) || attachedNames.contains name then none
      else some (name, name ++ "=" ++ String.ofList (consoleValue value))
    | _ => none
  let sorted := others.mergeSort fun left right => decide (left.1 ≤ right.1)
  let shown := (columns ++ sorted.map (·.2)).filter (· ≠ "")
  String.ofList ((" ".intercalate shown).toList.reverse.dropWhile (· = ' ')).reverse

/-- A field that is not null, as text. -/
def attached (entries : Entries) (name : String) : Option String :=
  match Entries.getText? entries name with
  | none | some .null => none
  | some value => some value.rendered

/-- The stack and the exception below the line, with a rule between them. -/
def consoleTail (entries : Entries) : String :=
  let exception := attached entries "exception"
  let raised := (Entries.getText? entries "exc_info").any fun value => !value.isNothing
  let rule := if exception.isSome || raised then
    "\n\n" ++ String.ofList (List.replicate 79 '=') ++ "\n" else ""
  ((attached entries "stack").map fun stack => "\n" ++ stack ++ rule).getD "" ++
    (exception.map ("\n" ++ ·)).getD ""

/-- What a console shows. -/
def consoleLine (entries : Entries) : String := consoleHead entries ++ consoleTail entries

/-- The message as a line. -/
def line (message : Message) (format : LogFormat) (time : String) (runId : Option String) :
    String :=
  let entries := message.entries time runId
  match format with
  | .json => Json.compact (.map entries)
  | .console => consoleLine entries

end Message

end SpecLint.Report
