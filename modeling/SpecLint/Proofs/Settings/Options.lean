import SpecLint.Proofs.Check.Findings
import SpecLint.Proofs.Data.Merging
import SpecLint.Settings.Load

/-!
# The options of the checks

Every check is switched on or off, those of methods have exceptions and aliases, and one of them has
an option of its own. All are read alike: from the section of the check, under one of two names, and
with a default if the section or the name is not there.

## Main result

`held_of_readEntries`: what settings hold for an option was read from its section.
-/
namespace SpecLint

open SpecLint.Data SpecLint.Check SpecLint.Settings

/-! ### Reading what is valid -/

namespace Validated

variable {α β : Type}

theorem map_eq_valid {change : α → β} {part : Validated α} {value : β}
    (read : change <$> part = .valid value) : ∃ item, part = .valid item ∧ change item = value := by
  cases part with
  | valid item =>
    injection read with same
    exact ⟨item, rfl, same⟩
  | invalid first others => cases read

theorem seq_eq_valid {change : Validated (α → β)} {part : Validated α} {value : β}
    (read : change <*> part = .valid value) :
    ∃ made item, change = .valid made ∧ part = .valid item ∧ made item = value := by
  cases change with
  | valid made =>
    cases part with
    | valid item =>
      injection read with same
      exact ⟨made, item, rfl, rfl, same⟩
    | invalid first others => cases read
  | invalid first others => cases read

theorem under_eq_valid {name : String} {part : Validated α} {value : α}
    (read : part.under name = .valid value) : part = .valid value := by
  cases part with
  | valid item => exact read
  | invalid first others => cases read

end Validated

/-- What is read under a name: the default, or the data that were found. -/
theorem OptionName.read_eq_valid {α : Type} {name : OptionName} {entries : Entries} {default : α}
    {reader : Value → Validated α} {value : α}
    (read : name.read entries default reader = .valid value) :
    match (name.find? entries).map (·.2) with
    | none => value = default
    | some found => reader found = .valid value := by
  unfold OptionName.read at read
  cases present : name.find? entries with
  | none =>
    rw [present] at read
    injection read with same
    exact same.symm
  | some found =>
    rw [present] at read
    exact Validated.under_eq_valid read

theorem readGroup_eq_valid {α : Type} {group : OptionGroup} {reader : Entries → Validated α}
    {data : Value} {value : α} (read : readGroup group reader data = .valid value) :
    data.isMap = true ∧ reader data.entries = .valid value := by
  unfold readGroup at read
  unfold Value.isMap Value.entries
  cases shape : data.bare with
  | map entries =>
    rw [shape] at read
    exact ⟨rfl, read⟩
  | _ =>
    rw [shape] at read
    cases read

/-! ### The options of the checks -/

/-- The options of the checks, each with what it holds. -/
inductive CheckOption : Type → Type 1 where
  | enabled (kind : CheckKind) : CheckOption Bool
  | skipFor (kind : CheckKind) (perMethod : kind ≠ .fileHasSpec) : CheckOption (List String)
  | aliases (kind : CheckKind) (perMethod : kind ≠ .fileHasSpec) : CheckOption AliasTable
  | excluded (kind : CheckKind) (perMethod : kind ≠ .fileHasSpec) : CheckOption (List Pattern)
  | ignoreMemoization : CheckOption Bool

namespace CheckOption

variable {α : Type}

def kind : CheckOption α → CheckKind
  | enabled kind | skipFor kind _ | aliases kind _ | excluded kind _ => kind
  | ignoreMemoization => .sufficientContexts

def name : CheckOption α → OptionName
  | enabled _ => .enabled
  | skipFor .. => .skipFor
  | aliases .. => .aliases
  | excluded .. => .excluded
  | ignoreMemoization => .ignoreMemoization

/-- What holds where nothing is set. -/
def default : CheckOption α → α
  | enabled _ => true
  | skipFor .. => []
  | aliases .. => .empty
  | excluded .. => (Exclusion.read callbackPatterns).1
  | ignoreMemoization => true

/-- How data for the option are read. -/
def reader : CheckOption α → Value → Validated α
  | enabled _ => readTruth
  | skipFor .. => readTexts
  | aliases .. => readAliases
  | excluded .. => readPatterns
  | ignoreMemoization => readTruth

/-- What settings hold for the option. -/
def held (settings : Settings) : CheckOption α → α
  | enabled kind => kind.isEnabled settings
  | skipFor kind _ => (CheckKind.options settings kind).skipFor
  | aliases kind _ => (CheckKind.options settings kind).aliases
  | excluded kind _ => (CheckKind.options settings kind).excluded
  | ignoreMemoization => settings.sufficientContexts.ignoreMemoization

/-- Whether the option is a mapping, whose entries are set one by one. -/
def isMapping : CheckOption α → Bool
  | aliases .. => true
  | _ => false

/-- The option is read from the entries of its section. -/
def ReadFrom (option : CheckOption α) (settings : Settings) (entries : Entries) : Prop :=
  option.name.read entries option.default option.reader = .valid (option.held settings)

end CheckOption

theorem MethodOptions.readEntries_eq_valid {entries : Entries} {options : MethodOptions}
    (read : MethodOptions.readEntries entries = .valid options) :
    OptionName.enabled.read entries true readTruth = .valid options.enabled ∧
      OptionName.skipFor.read entries [] readTexts = .valid options.skipFor ∧
      OptionName.aliases.read entries .empty readAliases = .valid options.aliases ∧
      OptionName.excluded.read entries (Exclusion.read callbackPatterns).1 readPatterns =
        .valid options.excluded := by
  obtain ⟨_, _, three, excluded, rfl⟩ := Validated.seq_eq_valid read
  obtain ⟨_, _, two, aliases, rfl⟩ := Validated.seq_eq_valid three
  obtain ⟨_, _, one, skipFor, rfl⟩ := Validated.seq_eq_valid two
  obtain ⟨_, enabled, rfl⟩ := Validated.map_eq_valid one
  exact ⟨enabled, skipFor, aliases, excluded⟩

theorem ContextOptions.readEntries_eq_valid {entries : Entries} {options : ContextOptions}
    (read : (ContextOptions.mk <$> MethodOptions.readEntries entries
      <*> OptionName.ignoreMemoization.read entries true readTruth) = .valid options) :
    MethodOptions.readEntries entries = .valid options.toMethodOptions ∧
      OptionName.ignoreMemoization.read entries true readTruth =
        .valid options.ignoreMemoization := by
  obtain ⟨_, _, first, ignoreMemoization, rfl⟩ := Validated.seq_eq_valid read
  obtain ⟨_, methodOptions, rfl⟩ := Validated.map_eq_valid first
  exact ⟨methodOptions, ignoreMemoization⟩

/-- Something holds of the entries of a section, which is a mapping, or something else holds because
there is no such section. -/
def SectionSays (merged : Entries) (sect : String) (absent : Prop) (present : Entries → Prop) :
    Prop :=
  match Entries.getText? merged sect with
  | none => absent
  | some value => value.isMap = true ∧ present value.entries

theorem SectionSays.imp {merged : Entries} {sect : String} {absent absent' : Prop}
    {present present' : Entries → Prop} (stated : SectionSays merged sect absent present)
    (ofAbsent : absent → absent') (ofPresent : ∀ entries, present entries → present' entries) :
    SectionSays merged sect absent' present' := by
  unfold SectionSays at stated ⊢
  cases found : Entries.getText? merged sect with
  | none =>
    rw [found] at stated
    exact ofAbsent stated
  | some value =>
    rw [found] at stated
    exact ⟨stated.1, ofPresent _ stated.2⟩

/-- A section that is read is a mapping, or not there. -/
theorem section_eq_valid {α : Type} {sect : String} {merged : Entries} {default part : α}
    {group : OptionGroup} {reader : Entries → Validated α}
    (read : OptionName.read ⟨sect, none⟩ merged default (readGroup group reader) = .valid part) :
    SectionSays merged sect (part = default) fun entries => reader entries = .valid part := by
  have found := OptionName.read_eq_valid read
  have looked : ((OptionName.mk sect none).find? merged).map (·.2) =
      Entries.getText? merged sect := by
    simp only [OptionName.find?, Option.bind_none, Option.none_or, Option.map_map]
    cases Entries.getText? merged sect <;> rfl
  rw [looked] at found
  unfold SectionSays
  cases present : Entries.getText? merged sect with
  | none =>
    rw [present] at found
    exact found
  | some value =>
    rw [present] at found
    exact readGroup_eq_valid found

/-- What holds for an option was read from its section, if that is there. -/
theorem held_of_readEntries {α : Type} {homes : Homes} {merged : Entries} {settings : Settings}
    (read : Settings.readEntries homes merged = .valid settings) (option : CheckOption α) :
    SectionSays merged option.kind.section (option.held settings = option.default)
      (option.ReadFrom settings) := by
  obtain ⟨_, contexts, three, readContexts, rfl⟩ := Validated.seq_eq_valid read
  obtain ⟨_, methods, two, readMethods, rfl⟩ := Validated.seq_eq_valid three
  obtain ⟨_, _, one, readFile, rfl⟩ := Validated.seq_eq_valid two
  obtain ⟨_, _, rfl⟩ := Validated.map_eq_valid one
  have ofFile := section_eq_valid readFile
  have ofMethods := (section_eq_valid readMethods).imp id fun _ =>
    MethodOptions.readEntries_eq_valid
  have ofContexts := (section_eq_valid readContexts).imp id fun _ =>
    ContextOptions.readEntries_eq_valid
  have ofShared := ofContexts.imp (congrArg ContextOptions.toMethodOptions) fun _ both =>
    MethodOptions.readEntries_eq_valid both.1
  cases option with
  | enabled kind =>
    cases kind with
    | fileHasSpec => exact ofFile
    | publicMethodHasSpec =>
      exact ofMethods.imp (congrArg MethodOptions.enabled) fun _ parts => parts.1
    | sufficientContexts =>
      exact ofShared.imp (congrArg MethodOptions.enabled) fun _ parts => parts.1
  | skipFor kind perMethod =>
    cases kind with
    | fileHasSpec => exact absurd rfl perMethod
    | publicMethodHasSpec =>
      exact ofMethods.imp (congrArg MethodOptions.skipFor) fun _ parts => parts.2.1
    | sufficientContexts =>
      exact ofShared.imp (congrArg MethodOptions.skipFor) fun _ parts => parts.2.1
  | aliases kind perMethod =>
    cases kind with
    | fileHasSpec => exact absurd rfl perMethod
    | publicMethodHasSpec =>
      exact ofMethods.imp (congrArg MethodOptions.aliases) fun _ parts => parts.2.2.1
    | sufficientContexts =>
      exact ofShared.imp (congrArg MethodOptions.aliases) fun _ parts => parts.2.2.1
  | excluded kind perMethod =>
    have untouched {options : MethodOptions} (same : options = {}) :
        options.excluded = (Exclusion.read callbackPatterns).1 := by rw [same]
    unfold CheckOption.ReadFrom
    simp only [CheckOption.default, CheckOption.held]
    cases kind with
    | fileHasSpec => exact absurd rfl perMethod
    | publicMethodHasSpec => exact ofMethods.imp untouched fun _ parts => parts.2.2.2
    | sufficientContexts => exact ofShared.imp untouched fun _ parts => parts.2.2.2
  | ignoreMemoization =>
    exact ofContexts.imp (congrArg ContextOptions.ignoreMemoization) fun _ both => both.2

theorem OptionName.map_find? (name : OptionName) (entries : Entries) :
    (name.find? entries).map (·.2) =
      (name.camel.bind (Entries.getText? entries)).or (Entries.getText? entries name.own) := by
  obtain ⟨own, camel⟩ := name
  have under (written : String) :
      ((Entries.getText? entries written).map fun value => (written, value)).map (·.2) =
        Entries.getText? entries written := by
    cases Entries.getText? entries written <;> rfl
  cases camel with
  | none => exact under own
  | some camel =>
    simp only [OptionName.find?, Option.bind_some, Option.map_or, under]

namespace CheckOption

variable {α : Type} {option : CheckOption α}

/-- Data that are valid for any other option than aliases are no mapping. -/
theorem not_isMap_of_valid (single : option.isMapping = false) {value : Value} {item : α}
    (valid : option.reader value = .valid item) : value.isMap = false := by
  have noTruth {truth : Bool} (read : readTruth value = .valid truth) : value.isMap = false := by
    cases value with
    | map | looped => cases read
    | _ => rfl
  have noTexts {texts : List String} (read : readTexts value = .valid texts) :
      value.isMap = false := by
    rw [readTexts, readItems, itemsOf?] at read
    unfold Value.isMap
    cases shape : value.bare with
    | map entries =>
      rw [shape] at read
      cases read
    | _ => rfl
  cases option with
  | enabled | ignoreMemoization => exact noTruth valid
  | skipFor => exact noTexts valid
  | aliases => cases single
  | excluded =>
    have texts : ∃ texts, readTexts value = .valid texts := by
      cases read : readTexts value with
      | valid texts => exact ⟨texts, rfl⟩
      | invalid first others =>
        have failed : readPatterns value = .invalid first others := by rw [readPatterns, read]
        rw [reader, failed] at valid
        cases valid
    obtain ⟨_, read⟩ := texts
    exact noTexts read

theorem camel_ne_own (option : CheckOption α) : option.name.camel ≠ some option.name.own := by
  cases option <;> simp [name, OptionName.enabled, OptionName.skipFor, OptionName.aliases,
    OptionName.excluded, OptionName.ignoreMemoization]

end CheckOption

end SpecLint
