import SpecLint.Disk.Basic
import SpecLint.Text.Quoted
import SpecLint.Text.Similarity

/-!
# Arguments

The program has a few options of its own and one command, `check`. Options of the program stand
before the command; options of the command and its paths may be mixed, up to a double dash. A long
option takes its value from behind an equals sign or from the next argument; flags of one letter can
be written together.
-/
namespace SpecLint.CommandLine

open SpecLint.Text

structure OptionForm where
  name : String
  /-- A flag of one letter. -/
  letter : Option Char := none
  takesValue : Bool := false

/-- The places in which options stand. -/
inductive Place where
  | program
  | check
  deriving DecidableEq, Repr

def Place.options : Place → List OptionForm
  | program => [⟨"--version", none, false⟩, ⟨"--verbose", some 'v', false⟩, ⟨"--help", none, false⟩]
  | check =>
    [⟨"--root", none, true⟩, ⟨"--check", none, true⟩, ⟨"--json", none, false⟩,
      ⟨"--help", none, false⟩]

/-- Why arguments make no sense. -/
inductive UsageFault where
  | unknownOption (written : String) (similar : List String)
  | valueMissing (option : String)
  | valueUnexpected (option : String)
  | unknownCommand (written : String) (similar : List String)
  | commandMissing
  | pathMissing (written : String)
  | rootMissing (written : String)
  | rootIsFile (written : String)
  deriving DecidableEq, Repr

def inQuotes (written : String) : String := String.ofList (quoted written.toList)

/-- What is suggested instead of a misspelled word. -/
def suggestion (similar : List String) : String :=
  let words := ", ".intercalate (similar.map inQuotes)
  match similar with
  | [] => ""
  | [_] => " Did you mean " ++ words ++ "?"
  | _ => " (Possible options: " ++ words ++ ")"

def UsageFault.message : UsageFault → String
  | unknownOption written similar =>
    "No such option " ++ inQuotes written ++ "." ++ suggestion similar
  | valueMissing option => "Option " ++ inQuotes option ++ " requires an argument."
  | valueUnexpected option => "Option " ++ inQuotes option ++ " does not take a value."
  | unknownCommand written similar =>
    "No such command " ++ inQuotes written ++ "." ++ suggestion similar
  | commandMissing => "Missing command."
  | pathMissing written =>
    "Invalid value for '[PATHS]...': Path " ++ inQuotes written ++ " does not exist."
  | rootMissing written =>
    "Invalid value for '--root': Directory " ++ inQuotes written ++ " does not exist."
  | rootIsFile written =>
    "Invalid value for '--root': Directory " ++ inQuotes written ++ " is a file."

/-- An option as it was given, with its value if it takes one. -/
structure Given where
  name : String
  value : Option String := none
  deriving DecidableEq, Repr

/-- What one argument with a dash comes to. -/
inductive Step where
  | given (options : List Given)
  /-- The value is the next argument. -/
  | awaitsValue (name : String)

/-- A long option up to its equals sign, and its value. -/
def cutValue (written : String) : String × Option String :=
  let chars := written.toList
  let name := chars.takeWhile (· ≠ '=')
  match chars.drop name.length with
  | [] => (written, none)
  | _ :: value => (String.ofList name, some (String.ofList value))

/-- The flags written together as letters. -/
def readLetters (place : Place) : List Char → Except UsageFault (List Given)
  | [] => .ok []
  | letter :: rest =>
    match place.options.find? fun option => option.letter = some letter with
    | some option => do return ⟨option.name, none⟩ :: (← readLetters place rest)
    | none => .error (.unknownOption (String.ofList ['-', letter]) [])

/-- An argument with a dash. -/
def readOption (place : Place) (written : String) : Except UsageFault Step :=
  let (name, value) := cutValue written
  match place.options.find? fun option => option.name = name, value with
  | some option, value =>
    if option.takesValue then
      match value with
      | some value => .ok (.given [⟨name, some value⟩])
      | none => .ok (.awaitsValue name)
    else
      match value with
      | some _ => .error (.valueUnexpected name)
      | none => .ok (.given [⟨name, none⟩])
  | none, _ =>
    if "--".isPrefixOf written then
      .error (.unknownOption name (closeWords name (place.options.map OptionForm.name)))
    else (readLetters place (written.toList.drop 1)).map .given

/-- Options and other arguments, each in the order given. -/
structure Arguments where
  options : List Given
  others : List String
  deriving DecidableEq, Repr

def Arguments.withOptions (options : List Given) (arguments : Arguments) : Arguments :=
  { arguments with options := options ++ arguments.options }

/-- Whether an argument is read as an option. -/
def isOption (written : String) : Bool := "-".isPrefixOf written && written ≠ "-"

/-- Read arguments; the options of the program end at the first other argument. -/
def readArguments (place : Place) : List String → Except UsageFault Arguments
  | [] => .ok ⟨[], []⟩
  | written :: rest =>
    if written = "--" then .ok ⟨[], rest⟩
    else if isOption written then
      match readOption place written with
      | .error fault => .error fault
      | .ok (.given options) => (readArguments place rest).map (.withOptions options)
      | .ok (.awaitsValue name) =>
        match rest with
        | [] => .error (.valueMissing name)
        | value :: rest => (readArguments place rest).map (.withOptions [⟨name, some value⟩])
    else if place = .program then .ok ⟨[], written :: rest⟩
    else (readArguments place rest).map fun arguments =>
      { arguments with others := written :: arguments.others }

/-- What `check` is asked to do. -/
structure CheckRequest where
  root : String := "."
  paths : List String := []
  checks : List String := []
  json : Bool := false
  verbose : Bool := false
  deriving DecidableEq, Repr

/-- What the program is asked to do. -/
inductive Request where
  | version
  | help (place : Place)
  /-- No arguments at all. -/
  | nothing
  | check (request : CheckRequest)
  deriving DecidableEq, Repr

def hasFlag (options : List Given) (name : String) : Bool := options.any (·.name == name)

def valuesOf (options : List Given) (name : String) : List String :=
  options.filterMap fun given => if given.name = name then given.value else none

/-- Read the arguments of `check`. -/
def readCheck (verbose : Bool) (arguments : List String) : Except UsageFault Request := do
  let ⟨options, paths⟩ ← readArguments .check arguments
  if hasFlag options "--help" then return .help .check
  return .check {
    root := (valuesOf options "--root").getLast?.getD "."
    paths
    checks := valuesOf options "--check"
    json := hasFlag options "--json"
    verbose }

/-- What the options of the program ask for by themselves: the first of its version and its help. -/
def immediate? (options : List Given) : Option Request :=
  (options.find? fun given => given.name = "--version" ∨ given.name = "--help").map fun given =>
    if given.name = "--version" then .version else .help .program

/-- There is no such command. What only stands behind a double dash may still be an option that the
program knows. -/
def readUnknown (command : String) (rest : List String) : Except (Place × UsageFault) Request :=
  match readArguments .program (command :: rest) with
  | .error fault => .error (.program, fault)
  | .ok ⟨options, _⟩ => match immediate? options with
    | some request => .ok request
    | none => .error (.program, .unknownCommand command (closeWords command ["check"]))

/-- Read all arguments; a fault comes with the place it is about. -/
def readRequest (arguments : List String) : Except (Place × UsageFault) Request :=
  if arguments = [] then .ok .nothing
  else match readArguments .program arguments with
    | .error fault => .error (.program, fault)
    | .ok ⟨options, others⟩ =>
      match immediate? options, others with
      | some request, _ => .ok request
      | none, [] => .error (.program, .commandMissing)
      | none, "check" :: rest =>
        (readCheck (hasFlag options "--verbose") rest).mapError fun fault => (.check, fault)
      | none, other :: rest => readUnknown other rest

/-! ## Paths -/

/-- Whether there is anything under a path as written; a path that ends in a slash must be a
directory. -/
def isThere (disk : Disk) (written : String) : Bool :=
  let path := Path.ofString written
  written ≠ "" &&
    (if written.endsWith "/" || written.endsWith "/." then disk.isDirectory path
      else disk.exists? path)

/-- The first fault in the paths of a request; the root is looked at first. -/
def pathFault? (disk : Disk) (request : CheckRequest) : Option UsageFault :=
  if !isThere disk request.root then some (.rootMissing request.root)
  else if disk.isFile (Path.ofString request.root) then some (.rootIsFile request.root)
  else (request.paths.find? fun path => !isThere disk path).map .pathMissing

/-- The absolute path without `.` and `..`. -/
def resolve (disk : Disk) (written : String) : Path :=
  let path := Path.ofString written
  match disk.place path with
  | .ok segments => ⟨"/", segments⟩
  | .error _ => path

end SpecLint.CommandLine
