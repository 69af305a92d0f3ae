import SpecLint.Data.Merge
import SpecLint.Json.Reader
import SpecLint.Settings.Reading
import SpecLint.Text.Case
import SpecLint.Text.Split

/-!
# Settings in environment variables

A variable named after a section holds the section as JSON. A variable whose name goes on after the
section, with two underscores before each further name, sets one option, and wins over the former.
Names are compared without regard to case; an option is stored under its camel-case name when that
is what the variable calls it. Lists and mappings are written in JSON, all else as plain text; what
stands under a name in a mapping may be either.
-/
namespace SpecLint.Settings

open SpecLint.Data SpecLint.Text

/-- Variables by name. -/
abbrev Environment := List (String × String)

/-- A list, a mapping or a section is not written in JSON. -/
inductive EnvironmentFault where
  | malformedJson
  deriving DecidableEq, Repr

def lowerName (name : String) : String := String.ofList (lowerAfter [] name.toList)

/-- Variables by lower-case name; of names that differ in case only, the last counts. -/
def lowerNames (environment : Environment) : Entries :=
  environment.foldl (fun seen (name, written) =>
    Entries.put (.text (lowerName name)) (.text written) seen) []

/-- What an option holds. -/
inductive OptionShape where
  | single
  | list
  | mapping
  deriving DecidableEq, Repr

/-- An option as variables may call it. -/
structure SectionOption where
  name : OptionName
  shape : OptionShape

structure Section where
  name : String
  options : List SectionOption

def checkOptions : List SectionOption := [⟨.enabled, .single⟩]

def methodOptions : List SectionOption :=
  checkOptions ++ [⟨.skipFor, .list⟩, ⟨.aliases, .mapping⟩, ⟨.excluded, .list⟩]

/-- The sections in the order in which they are read. -/
def sections : List Section :=
  [⟨"logging", [⟨.level, .single⟩, ⟨.outputs, .list⟩]⟩,
    ⟨"file_has_spec", checkOptions⟩,
    ⟨"public_method_has_spec", methodOptions⟩,
    ⟨"sufficient_contexts", methodOptions ++ [⟨.ignoreMemoization, .single⟩]⟩]

def parseJson (written : String) : Except EnvironmentFault Value :=
  match Json.parse written with
  | some value => .ok value
  | none => .error .malformedJson

namespace Section

/-- The variable that holds the whole section. -/
def ownVariable (sect : Section) : String := "specparity__" ++ sect.name

/-- The option that a single further name calls. -/
def optionCalled? (sect : Section) (written : String) : Option SectionOption :=
  sect.options.find? fun option =>
    lowerName option.name.own == lowerName written ||
      option.name.camel.any fun camel => lowerName camel == lowerName written

/-- The value that a variable gives to the place called by `names`. -/
def valueOf (sect : Section) (names : List String) (written : String) :
    Except EnvironmentFault Value :=
  if written = "" then .ok (.text written)
  else match names with
    | [name] => match sect.optionCalled? name with
      | some option => if option.shape = .single then .ok (.text written) else parseJson written
      | none => .ok (.text written)
    | [name, _] =>
      if (sect.optionCalled? name).any (·.shape = .mapping) then
        .ok ((Json.parse written).getD (.text written))
      else .ok (.text written)
    | _ => .ok (.text written)

/-- Write a value at a place inside of mappings; a place inside of anything else is not written. -/
def putAt (value : Value) : List String → Entries → Entries
  | [], entries => entries
  | [name], entries => Entries.put (.text name) value entries
  | name :: names, entries => match Entries.getText? entries name with
    | none => Entries.put (.text name) (.map (putAt value names [])) entries
    | some (.map inner) => Entries.put (.text name) (.map (putAt value names inner)) entries
    | some _ => entries

/-- The further names of a variable, if it sets an option of the section. -/
def namesIn? (sect : Section) (called : String) : Option (List String) :=
  let lead := (sect.ownVariable ++ "__").toList
  if lead.isPrefixOf called.toList then
    some ((splitOnDouble '_' (called.toList.drop lead.length)).map String.ofList)
  else none

/-- All options set one by one. -/
def single (sect : Section) (assignments : Entries) : Except EnvironmentFault Entries :=
  assignments.foldlM (fun found entry => match entry with
    | (.text called, .text written) => match sect.namesIn? called with
      | some names => return putAt (← sect.valueOf names written) names found
      | none => return found
    | _ => return found) []

/-- Options called by their camel-case name in any case, under that name; an option without one
likewise under its own name. -/
def spelled (sect : Section) (entries : Entries) : Entries :=
  entries.foldl (fun found (key, value) =>
    let key := match key with
      | .text name =>
        let spellings := sect.options.map fun option => option.name.camel.getD option.name.own
        .text ((spellings.find? fun spelling => lowerName spelling == lowerName name).getD name)
      | key => key
    Entries.put key value found) []

/-- What the variables say about the section, if anything. -/
def fromVariables (sect : Section) (assignments : Entries) :
    Except EnvironmentFault (Option Value) := do
  let whole ← match Entries.getText? assignments sect.ownVariable with
    | some (.scalar (.text written)) => some <$> parseJson written
    | _ => pure none
  match whole with
  | none =>
    let options ← sect.single assignments
    return if options = [] then none else some (.map (sect.spelled options))
  | some (.scalar .null) => return none
  | some (.map entries) =>
    return some (.map (sect.spelled (mergeEntries entries (← sect.single assignments))))
  | some other => return some other

end Section

/-- The sections that environment variables set. -/
def ofEnvironment (environment : Environment) : Except EnvironmentFault Entries := do
  let assignments := lowerNames environment
  let found ← sections.mapM fun sect => do
    return (← sect.fromVariables assignments).map fun value => (Scalar.text sect.name, value)
  return found.filterMap id

end SpecLint.Settings
