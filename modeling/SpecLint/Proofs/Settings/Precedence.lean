import SpecLint.Proofs.Settings.Options
import SpecLint.Proofs.Settings.Regularity

/-!
# Which source decides an option

Overrides go before the environment and the environment before the file. An option of a check may be
called by its own name or by its camel-case name, and the names are told apart while the sources are
merged: the camel-case name is looked up first in what all sources set together. So the order of the
sources decides among those that call an option alike, and a source that uses the camel-case name
goes before all that use the other one.

## Main result

`loaded_by_spelling`: what every option of every check is loaded from.
-/
namespace SpecLint

open SpecLint.Data SpecLint.Check SpecLint.Settings

/-! ### The layers of the sources -/

/-- The layers of settings, the uppermost first. -/
def Sources.layers (sources : Sources) : Except LoadFault (List Entries) := do
  let file ← sources.fromFile
  let environment ← sources.fromEnvironment
  return [sources.fromOverrides, environment, file]

theorem readEntries_of_interpret {homes : Homes} {merged : Entries} {settings : Settings}
    (read : Sources.interpret homes merged = .ok settings) :
    Settings.readEntries homes merged = .valid settings := by
  unfold Sources.interpret at read
  split at read
  · have strict : Settings.readStrictly homes merged = .valid settings := by
      unfold Sources.outcome at read
      split at read
      · obtain rfl := Except.ok.inj read
        assumption
      · cases read
      · split at read <;> cases read
    obtain ⟨_, _, first, _, rfl⟩ := Validated.seq_eq_valid strict
    obtain ⟨_, entries, rfl⟩ := Validated.map_eq_valid first
    exact entries
  · cases read

theorem regular_fromEnvironment {sources : Sources} {environment : Entries}
    (found : sources.fromEnvironment = .ok environment) : Regular environment :=
  regular_ofEnvironment (eq_ok_of_mapError_eq_ok found)

/-- Settings that are loaded were read from the merged layers. -/
theorem Sources.load_eq_ok {sources : Sources} {settings : Settings}
    (loaded : sources.load = .ok settings) :
    ∃ file environment, sources.layers = .ok [sources.fromOverrides, environment, file] ∧
      Regular environment ∧
      Settings.readEntries sources.homes
        (Sources.merge file environment sources.fromOverrides) = .valid settings := by
  unfold Sources.load at loaded
  obtain ⟨file, read, later⟩ := exists_of_bind_eq_ok loaded
  obtain ⟨environment, found, last⟩ := exists_of_bind_eq_ok later
  refine ⟨file, environment, ?_, regular_fromEnvironment found, readEntries_of_interpret last⟩
  unfold Sources.layers
  rw [read, found]
  rfl

/-! ### What layers give for an option -/

namespace CheckOption

variable {α : Type} {option : CheckOption α}

/-- What a layer sets for the option, and under which name. -/
def setBy? (option : CheckOption α) (layer : Entries) : Option (String × Value) :=
  option.name.find? ((Entries.getText? layer option.kind.section).elim [] Value.entries)

/-- What layers set for the option together: under its camel-case name, or else under its own. -/
def given? (option : CheckOption α) (layers : List Entries) : Option Value :=
  (option.name.camel.bind (layered layers option.kind.section)).or
    (layered layers option.kind.section option.name.own)

/-- An option holds its default or what the layers give for it together. -/
theorem held_of_given (option : CheckOption α) {homes : Homes} {settings : Settings}
    {file environment overrides : Entries} (environmentIs : Regular environment)
    (overridesAre : Regular overrides)
    (read : Settings.readEntries homes (Sources.merge file environment overrides) =
      .valid settings) :
    match option.given? [overrides, environment, file] with
    | none => option.held settings = option.default
    | some value => option.reader value = .valid (option.held settings) := by
  have stated := held_of_readEntries read option
  unfold SectionSays at stated
  cases found : Entries.getText? (Sources.merge file environment overrides)
      option.kind.section with
  | none =>
    rw [found] at stated
    have nothing (written : String) :
        layered [overrides, environment, file] option.kind.section written = none :=
      layered_of_absent environmentIs overridesAre found written
    have given : option.given? [overrides, environment, file] = none := by
      unfold given?
      cases option.name.camel <;> simp [nothing]
    rw [given]
    exact stated
  | some value =>
    rw [found] at stated
    have together : option.given? [overrides, environment, file] =
        (option.name.find? value.entries).map (·.2) := by
      have each : Entries.getText? value.entries =
          layered [overrides, environment, file] option.kind.section :=
        funext (getText?_section_merge environmentIs overridesAre found stated.1)
      rw [OptionName.map_find?, each]
      rfl
    rw [together]
    exact OptionName.read_eq_valid stated.2

theorem setBy?_eq (option : CheckOption α) (layer : Entries) :
    option.setBy? layer =
      (option.name.camel.bind fun camel =>
        (setting? layer option.kind.section camel).map fun value => (camel, value)).or
      ((setting? layer option.kind.section option.name.own).map fun value =>
        (option.name.own, value)) := by
  simp only [setBy?, OptionName.find?, setting?, elim_entries_getText?]

/-- A layer that sets the option under its camel-case name. -/
theorem setBy?_camel {camel : String} (named : option.name.camel = some camel) {layer : Entries}
    {value : Value} :
    option.setBy? layer = some (camel, value) ↔
      setting? layer option.kind.section camel = some value := by
  have apart : option.name.own ≠ camel := fun same =>
    option.camel_ne_own (named.trans (congrArg some same.symm))
  rw [setBy?_eq, named, Option.bind_some]
  cases setting? layer option.kind.section camel with
  | some given => simp
  | none =>
    cases setting? layer option.kind.section option.name.own with
    | none => simp
    | some given => simp [apart]

/-- The uppermost layer that sets the option does so under its camel-case name. -/
theorem highest_camel {camel : String} (named : option.name.camel = some camel) {value : Value}
    (layers : List Entries) (set : layers.findSome? option.setBy? = some (camel, value)) :
    highest layers option.kind.section camel = some value := by
  induction layers with
  | nil => cases set
  | cons layer layers ih =>
    rw [List.findSome?_cons] at set
    rw [highest, List.findSome?_cons]
    cases here : option.setBy? layer with
    | some found =>
      rw [here, Option.some.injEq] at set
      subst set
      rw [(setBy?_camel named).mp here]
    | none =>
      rw [here] at set
      have silent : setting? layer option.kind.section camel = none := by
        rw [Option.eq_none_iff_forall_ne_some]
        intro given found
        rw [(setBy?_camel named).mpr found] at here
        cases here
      rw [silent]
      exact ih set

/-- Where no layer uses the camel-case name, all use the other one. -/
theorem setBy?_own {layer : Entries}
    (plain : ∀ camel, option.name.camel = some camel →
      setting? layer option.kind.section camel = none) :
    option.setBy? layer = (setting? layer option.kind.section option.name.own).map fun value =>
      (option.name.own, value) := by
  rw [setBy?_eq]
  cases named : option.name.camel with
  | none => rfl
  | some camel =>
    rw [Option.bind_some, plain camel named]
    rfl

theorem highest_own {used : String} {value : Value} (layers : List Entries)
    (plain : ∀ layer ∈ layers, ∀ camel, option.name.camel = some camel →
      setting? layer option.kind.section camel = none)
    (set : layers.findSome? option.setBy? = some (used, value)) :
    highest layers option.kind.section option.name.own = some value := by
  induction layers with
  | nil => cases set
  | cons layer layers ih =>
    have here := setBy?_own (plain layer (List.mem_cons_self ..))
    rw [List.findSome?_cons, here] at set
    rw [highest, List.findSome?_cons]
    cases given : setting? layer option.kind.section option.name.own with
    | none =>
      rw [given] at set
      exact ih (fun layer member => plain layer (List.mem_cons_of_mem _ member)) set
    | some found =>
      rw [given] at set
      obtain ⟨_, rfl⟩ := Prod.mk.inj (Option.some.inj set)
      rfl

/-- No layer sets a name in a section, so nothing is set under it. -/
theorem layered_eq_none {layers : List Entries} {sect written : String}
    (silent : ∀ layer ∈ layers, setting? layer sect written = none) :
    layered layers sect written = none := by
  have nothing : highest layers sect written = none := List.findSome?_eq_none_iff.mpr silent
  have together := layered_highest layers sect written
  rw [nothing] at together
  exact together

/-- What stands uppermost under the name that decides is what the option holds. -/
theorem reader_of_highest {settings : Settings} {layers : List Entries} {written : String}
    {value : Value} (single : option.isMapping = false)
    (held : match option.given? layers with
      | none => option.held settings = option.default
      | some value => option.reader value = .valid (option.held settings))
    (decides : option.given? layers = layered layers option.kind.section written)
    (uppermost : highest layers option.kind.section written = some value) :
    option.reader value = .valid (option.held settings) := by
  have together := layered_highest layers option.kind.section written
  rw [uppermost] at together
  obtain ⟨merged, found, shape, alone⟩ := together
  rw [decides, found] at held
  -- a mapping would not be valid, so nothing below the value counts
  have noMap := not_isMap_of_valid single held
  rw [alone (shape.symm.trans noMap)] at held
  exact held

theorem given?_camel {camel : String} (named : option.name.camel = some camel)
    {layers : List Entries} {value : Value}
    (uppermost : highest layers option.kind.section camel = some value) :
    option.given? layers = layered layers option.kind.section camel := by
  have together := layered_highest layers option.kind.section camel
  rw [uppermost] at together
  obtain ⟨merged, found, _⟩ := together
  rw [given?, named, Option.bind_some, found]
  rfl

theorem given?_own {layers : List Entries}
    (plain : ∀ layer ∈ layers, ∀ camel, option.name.camel = some camel →
      setting? layer option.kind.section camel = none) :
    option.given? layers = layered layers option.kind.section option.name.own := by
  rw [given?]
  cases named : option.name.camel with
  | none => rfl
  | some camel =>
    have silent : layered layers option.kind.section camel = none :=
      layered_eq_none fun layer member => plain layer member camel named
    rw [Option.bind_some, silent]
    rfl

end CheckOption

/-- Every option of every check is loaded from what overrides, environment and file set together
under its camel-case name, or under its own name if none of them uses the former, or else is the
default. For options other than aliases this is the value of the uppermost source that uses the name
in question. So the uppermost source that sets the option at all prevails if it uses the camel-case
name or no source does. -/
theorem loaded_by_spelling {sources : Sources} {settings : Settings}
    (distinct : sources.DistinctOverrides) (loaded : sources.load = .ok settings) :
    ∃ layers, sources.layers = .ok layers ∧ ∀ {α : Type} (option : CheckOption α),
      (match option.given? layers with
        | none => option.held settings = option.default
        | some value => option.reader value = .valid (option.held settings)) ∧
      ((∀ layer ∈ layers, option.setBy? layer = none) →
        option.held settings = option.default) ∧
      (option.isMapping = false → ∀ camel value, option.name.camel = some camel →
        highest layers option.kind.section camel = some value →
          option.reader value = .valid (option.held settings)) ∧
      (option.isMapping = false → ∀ used value,
        layers.findSome? option.setBy? = some (used, value) →
        (option.name.camel = some used ∨ ∀ layer ∈ layers, ∀ camel,
          option.name.camel = some camel → setting? layer option.kind.section camel = none) →
          option.reader value = .valid (option.held settings)) := by
  obtain ⟨file, environment, found, environmentIs, read⟩ := Sources.load_eq_ok loaded
  refine ⟨_, found, fun option => ?_⟩
  have held := option.held_of_given environmentIs (regular_fromOverrides distinct) read
  refine ⟨held, fun silent => ?_, fun single camel value named uppermost => ?_,
    fun single used value set decides => ?_⟩
  · have plain : ∀ layer ∈ [sources.fromOverrides, environment, file], ∀ camel,
        option.name.camel = some camel →
          setting? layer option.kind.section camel = none := by
      intro layer member camel named
      rw [Option.eq_none_iff_forall_ne_some]
      intro given isGiven
      have set := (CheckOption.setBy?_camel named).mpr isGiven
      rw [silent layer member] at set
      cases set
    have nothing : option.given? [sources.fromOverrides, environment, file] = none := by
      rw [CheckOption.given?_own plain]
      refine CheckOption.layered_eq_none fun layer member => ?_
      have here := CheckOption.setBy?_own (plain layer member)
      rw [silent layer member] at here
      exact Option.map_eq_none_iff.mp here.symm
    rw [nothing] at held
    exact held
  · exact CheckOption.reader_of_highest single held (CheckOption.given?_camel named uppermost)
      uppermost
  · rcases decides with isCamel | plain
    · have uppermost := CheckOption.highest_camel isCamel _ set
      exact CheckOption.reader_of_highest single held
        (CheckOption.given?_camel isCamel uppermost) uppermost
    · exact CheckOption.reader_of_highest single held (CheckOption.given?_own plain)
        (CheckOption.highest_own _ plain set)

/-! An override that calls an option by its own name, over a file that uses the camel-case name. -/

def outrankedSources : Sources where
  disk := ⟨[], [([".specparity.yml"],
    .file "RSpecParity/SufficientContexts:\n  IgnoreMemoization: false\n".toUTF8)]⟩
  root := Path.here
  overrides := [("sufficient_contexts", .map [(.text "ignore_memoization", .bool true)])]
  homes := ⟨"", []⟩

theorem exists_load_outranked :
    ∃ settings, outrankedSources.load = .ok settings ∧
      CheckOption.ignoreMemoization.held settings = false := by
  have evaluated : (outrankedSources.load.toOption.map fun settings =>
      settings.sufficientContexts.ignoreMemoization) = some false := by decide +kernel
  cases loaded : outrankedSources.load with
  | error fault =>
    rw [loaded] at evaluated
    cases evaluated
  | ok settings =>
    rw [loaded] at evaluated
    exact ⟨settings, rfl, Option.some.inj evaluated⟩

/-- The uppermost source that sets the option is the override, which says yes, and no is loaded. -/
theorem override_is_outranked :
    (∃ layers, outrankedSources.layers = .ok layers ∧
      layers.findSome? CheckOption.ignoreMemoization.setBy? =
        some ("ignore_memoization", .bool true)) ∧
      CheckOption.ignoreMemoization.reader (.bool true) = .valid true ∧
      ∃ settings, outrankedSources.load = .ok settings ∧
        CheckOption.ignoreMemoization.held settings = false := by
  obtain ⟨settings, loaded, held⟩ := exists_load_outranked
  obtain ⟨file, environment, found, _, _⟩ := Sources.load_eq_ok loaded
  have lower : lowerName "sufficient_contexts" = "sufficient_contexts" :=
    lowerName_sectionName (by decide)
  have overrides : outrankedSources.fromOverrides =
      [(.text "sufficient_contexts", .map [(.text "ignore_memoization", .bool true)])] := by
    simp [Sources.fromOverrides, outrankedSources, sectionNames, lower]
  have first : CheckOption.ignoreMemoization.setBy? outrankedSources.fromOverrides =
      some ("ignore_memoization", .bool true) := by
    rw [overrides]
    rfl
  refine ⟨⟨_, found, ?_⟩, rfl, settings, loaded, held⟩
  rw [List.findSome?_cons, first]

/-- What is loaded is what the sources give together, which is not the default. -/
theorem loaded_by_spelling_outranked :
    outrankedSources.DistinctOverrides ∧ ∃ settings, outrankedSources.load = .ok settings ∧
      ∃ layers, outrankedSources.layers = .ok layers ∧
        ∃ value, CheckOption.ignoreMemoization.given? layers = some value ∧
          readTruth value = .valid false := by
  have distinct : outrankedSources.DistinctOverrides := by
    refine ⟨by decide, fun entry member => ?_⟩
    rw [List.mem_singleton.mp member]
    exact List.pairwise_singleton ..
  obtain ⟨settings, loaded, held⟩ := exists_load_outranked
  obtain ⟨layers, found, options⟩ := loaded_by_spelling distinct loaded
  have together := (options .ignoreMemoization).1
  refine ⟨distinct, settings, loaded, layers, found, ?_⟩
  cases given : CheckOption.ignoreMemoization.given? layers with
  | none =>
    rw [given, held] at together
    cases together
  | some value =>
    rw [given, held] at together
    exact ⟨value, rfl, together⟩

end SpecLint
