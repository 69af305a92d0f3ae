import SpecLint.Path.Home
import SpecLint.Settings.Problem

/-!
# Reading settings data

An option is looked up under its camel-case name first and then under its own name; a problem is
reported under the name that was used. An option that is absent has its default, and names that no
option has are passed over. Bytes may stand for text, and pairs and sets for lists.
-/
namespace SpecLint

open SpecLint.Data SpecLint.Report SpecLint.Number

/-- The names of an option. -/
structure OptionName where
  own : String
  /-- The name in camel case. -/
  camel : Option String := none
  deriving DecidableEq, Repr

namespace OptionName

def enabled : OptionName := ⟨"enabled", some "Enabled"⟩
def skipFor : OptionName := ⟨"skip_method_describe_for", some "SkipMethodDescribeFor"⟩
def aliases : OptionName := ⟨"describe_aliases", some "DescribeAliases"⟩
def excluded : OptionName := ⟨"excluded_patterns", some "ExcludedPatterns"⟩
def ignoreMemoization : OptionName := ⟨"ignore_memoization", some "IgnoreMemoization"⟩
def level : OptionName := ⟨"level", none⟩
def outputs : OptionName := ⟨"outputs", none⟩
def format : OptionName := ⟨"format", none⟩
def destination : OptionName := ⟨"destination", none⟩

/-- The name under which the option is set, and its data. -/
def find? (name : OptionName) (entries : Entries) : Option (String × Value) :=
  let under (written : String) : Option (String × Value) :=
    (Entries.getText? entries written).map fun value => (written, value)
  (name.camel.bind under).or (under name.own)

/-- Read an option, or take its default. -/
def read {α : Type} (name : OptionName) (entries : Entries) (default : α)
    (reader : Value → Validated α) : Validated α :=
  match name.find? entries with
  | none => .valid default
  | some (used, value) => (reader value).under used

end OptionName

/-! ## Single values -/

def falseWords : List String := ["0", "off", "f", "false", "n", "no"]

def trueWords : List String := ["1", "on", "t", "true", "y", "yes"]

/-- The whole numbers that are compared with 0 and 1 at all. -/
def fitsWord (n : Int) : Bool := -0x8000000000000000 ≤ n && n < 0x8000000000000000

/-- The text of a text or of bytes; none for anything else. -/
def textOf? : Value → Option (Except Complaint String)
  | .scalar (.text written) => some (.ok written)
  | .scalar (.bytes bytes) => match String.fromUTF8? ⟨bytes.toArray⟩ with
    | some written => some (.ok written)
    | none => some (.error .undecodableText)
  | _ => none

/-- A truth value: itself, 0 or 1, or a word in any case. -/
def readTruth (value : Value) : Validated Bool :=
  let ofNumber (n : Int) : Validated Bool :=
    if n = 0 then .valid false
    else if n = 1 then .valid true
    else .complain value (if fitsWord n then .unclearTruthValue else .noTruthValue)
  match value, textOf? value with
  | .scalar (.bool truth), _ => .valid truth
  | .scalar (.int n), _ => ofNumber n
  | .scalar (.float x), _ => match x.toInt? with
    | some n => ofNumber n
    | none => .complain value .noTruthValue
  | _, some (.ok word) =>
    let word := word.toLower
    if falseWords.contains word then .valid false
    else if trueWords.contains word then .valid true
    else .complain value .unclearTruthValue
  | _, some (.error _) => .complain value .unclearTruthValue
  | _, none => .complain value .noTruthValue

def readText (value : Value) : Validated String :=
  match textOf? value with
  | some (.ok written) => .valid written
  | some (.error complaint) => .complain value complaint
  | none => .complain value .noText

/-- The items of a list, of a pair or of a set. -/
def itemsOf? (value : Value) : Option (List Value) :=
  match value.bare with
  | .list items | .tuple items => some items
  | .set items => some (items.map .scalar)
  | _ => none

/-- Items with the position of each as its name. -/
def readItems {α : Type} (reader : Value → Validated α) (value : Value) : Validated (List α) :=
  match itemsOf? value with
  | some items =>
    Validated.each (items.zipIdx.map fun (item, position) =>
      (reader item).under (String.ofList (natText position)))
  | none => .complain value .noList

def readTexts (value : Value) : Validated (List String) := readItems readText value

def readLevel (value : Value) : Validated Level :=
  match value with
  | .scalar (.text written) =>
    match Level.all.find? fun level => capitalName level == written with
    | some level => .valid level
    | none => .complain value .noLevel
  | _ => .complain value .noLevel

/-- A level, or null for none. -/
def readOptionalLevel (value : Value) : Validated (Option Level) :=
  match value with
  | .scalar .null => .valid none
  | _ => some <$> readLevel value

def readFormat (value : Value) : Validated LogFormat :=
  match value with
  | .scalar (.text "json") => .valid .json
  | .scalar (.text "console") => .valid .console
  | _ => .complain value .noFormat

/-- Standard error, standard output or a file, which must be named absolutely. -/
def readDestination (homes : Homes) (value : Value) : Validated Destination :=
  let ofText (written : String) : Validated Destination :=
    if written = "stderr" then .valid .stderr
    else if written = "stdout" then .valid .stdout
    else match homes.expand (Path.ofString written) with
      | .ok path =>
        if path.isAbsolute then .valid (.file path.toString)
        else .complain value (.relativeDestination written)
      | .error .unknownUser => .complain value .unknownHome
      | .error .nulInName => .complain value .nulInUserName
  match readText value with
  | .valid written => ofText written
  | .invalid first others => .invalid first others

/-- Data as text, unless it holds a number that is too long. -/
def aliasText (value : Value) : Except Complaint String :=
  if value.isWritable then .ok value.rendered else .error .tooManyDigits

/-- The aliases under one key; a single alias stands for a list. -/
def aliasesUnder (key : Scalar) (value : Value) : Except Complaint (String × List String) := do
  let key ← aliasText (.scalar key)
  if !("#".isPrefixOf key || ".".isPrefixOf key) then throw (.aliasWithoutSigil key)
  let aliases := match value.bare with
    | .list items => items
    | _ => [value]
  return (key, ← aliases.mapM aliasText)

/-- Aliases by key; null means none. -/
def readAliases (value : Value) : Validated AliasTable :=
  match value.bare with
  | .scalar .null => .valid .empty
  | .map entries =>
    match entries.mapM fun (key, aliases) => aliasesUnder key aliases with
    | .ok entries => .valid ⟨entries⟩
    | .error complaint => .complain value complaint
  | _ => .complain value .noMapping

/-- Patterns that all read; the first that does not is complained of. -/
def readPatterns (value : Value) : Validated (List Pattern) :=
  let compile : List String → Except Complaint (List Pattern) := List.mapM fun written =>
    (Pattern.ofString written).mapError (.malformedPattern written)
  match readTexts value with
  | .invalid first others => .invalid first others
  | .valid written => match compile written with
    | .ok patterns => .valid patterns
    | .error complaint => .complain value complaint

/-! ## Groups of options -/

/-- A group is a mapping. -/
def readGroup {α : Type} (group : OptionGroup) (reader : Entries → Validated α) (value : Value) :
    Validated α :=
  match value.bare with
  | .map entries => reader entries
  | _ => .complain value (.noGroup group)

def OutputSettings.read (homes : Homes) : Value → Validated OutputSettings :=
  readGroup .logOutput fun entries =>
    OutputSettings.mk <$> OptionName.format.read entries .console readFormat
      <*> OptionName.destination.read entries .stderr (readDestination homes)
      <*> OptionName.level.read entries none readOptionalLevel

def LoggingSettings.read (homes : Homes) : Value → Validated LoggingSettings :=
  readGroup .logging fun entries =>
    LoggingSettings.mk <$> OptionName.level.read entries .warning readLevel
      <*> OptionName.outputs.read entries [{}] (readItems (OutputSettings.read homes))

def readEnabled (entries : Entries) : Validated Bool :=
  OptionName.enabled.read entries true readTruth

/-- A group whose only option is to be switched off. -/
def readSwitch (group : OptionGroup) : Value → Validated Bool := readGroup group readEnabled

def MethodOptions.readEntries (entries : Entries) : Validated MethodOptions :=
  MethodOptions.mk <$> readEnabled entries
    <*> OptionName.skipFor.read entries [] readTexts
    <*> OptionName.aliases.read entries .empty readAliases
    <*> OptionName.excluded.read entries (Exclusion.read callbackPatterns).1 readPatterns

def MethodOptions.read (group : OptionGroup) : Value → Validated MethodOptions :=
  readGroup group readEntries

def ContextOptions.read : Value → Validated ContextOptions :=
  readGroup .sufficientContexts fun entries =>
    ContextOptions.mk <$> MethodOptions.readEntries entries
      <*> OptionName.ignoreMemoization.read entries true readTruth

namespace Settings

def sectionNames : List String :=
  ["logging", "file_has_spec", "public_method_has_spec", "sufficient_contexts"]

/-- Read the sections. -/
def readEntries (homes : Homes) (entries : Entries) : Validated Settings :=
  let read {α : Type} (name : String) (default : α) (reader : Value → Validated α) : Validated α :=
    OptionName.read ⟨name, none⟩ entries default reader
  Settings.mk <$> read "logging" {} (LoggingSettings.read homes)
    <*> read "file_has_spec" true (readSwitch .fileHasSpec)
    <*> read "public_method_has_spec" {} (MethodOptions.read .publicMethodHasSpec)
    <*> read "sufficient_contexts" {} ContextOptions.read

def read (homes : Homes) : Value → Validated Settings := readGroup .all (readEntries homes)

/-- Names that are no sections are problems, in the order given. -/
def unknownNames (entries : Entries) : Validated PUnit :=
  (fun _ => PUnit.unit) <$> Validated.each (entries.filterMap fun (key, value) =>
    match key with
    | .text name =>
      if sectionNames.contains name then none
      else some ((Validated.complain value .unknownName : Validated PUnit).under name)
    | _ => none)

/-- Read the sections and permit no other names. -/
def readStrictly (homes : Homes) (entries : Entries) : Validated Settings :=
  (fun settings _ => settings) <$> readEntries homes entries <*> unknownNames entries

end Settings

end SpecLint
