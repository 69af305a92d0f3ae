import SpecLint.Proofs.Data.Attempt
import SpecLint.Proofs.Data.Merging
import SpecLint.Settings.Load

/-!
# Layers of settings

Overrides, environment and file each set options in sections. What the merged settings hold under a
name in a section is made of what the layers hold there, the upper ones over the lower ones.

## Main results

* `getText?_section_merge`: the merged value under a name in a section that is a mapping;
* `layered_highest`: what is set together, compared with what the uppermost layer sets;
* `getText?_putSections`: a section is the same under either of its keys.
-/
namespace SpecLint.Settings

open SpecLint.Data SpecLint.Check

/-! ### What layers set -/

/-- What a layer sets under a name in a section. -/
def setting? (layer : Entries) (sect written : String) : Option Value :=
  (Entries.getText? layer sect).bind fun value => Entries.getText? value.entries written

/-- What layers set together, the uppermost layer first: each next layer lies below what the layers
before it come to. -/
def layered (layers : List Entries) (sect written : String) : Option Value :=
  layers.foldl (fun upper layer => onto (setting? layer sect written) upper) none

/-- What the uppermost layer sets that sets anything. -/
def highest (layers : List Entries) (sect written : String) : Option Value :=
  layers.findSome? fun layer => setting? layer sect written

theorem onto_none (lower : Option Value) : onto lower none = lower := rfl

theorem onto_some (lower : Option Value) (value : Value) :
    onto lower (some value) = some (mergeValue lower value) := rfl

theorem elim_entries_getText? (section' : Option Value) (written : String) :
    (section'.bind fun value => Entries.getText? value.entries written) =
      Entries.getText? (section'.elim [] Value.entries) written := by
  cases section' <;> rfl

/-- What lies above decides alone where it is no mapping, and keeps to be a mapping otherwise. -/
theorem foldl_onto (layers : List Entries) (sect written : String) (upper : Value) :
    ∃ value, layers.foldl (fun upper layer => onto (setting? layer sect written) upper)
        (some upper) = some value ∧
      value.isMap = upper.isMap ∧ (upper.isMap = false → value = upper) := by
  induction layers generalizing upper with
  | nil => exact ⟨upper, rfl, rfl, fun _ => rfl⟩
  | cons layer layers ih =>
    rw [List.foldl_cons, onto_some]
    obtain ⟨value, folded, shape, single⟩ := ih (mergeValue (setting? layer sect written) upper)
    rw [isMap_mergeValue] at shape single
    refine ⟨value, folded, shape, fun noMap => ?_⟩
    rw [single noMap, mergeValue_of_not_isMap _ noMap]

/-- Layers set something together if one of them does, and then a mapping exactly if the uppermost
of these sets a mapping; anything else that it sets stands as it is. -/
theorem layered_highest (layers : List Entries) (sect written : String) :
    match highest layers sect written with
    | none => layered layers sect written = none
    | some upper => ∃ value, layered layers sect written = some value ∧
        value.isMap = upper.isMap ∧ (upper.isMap = false → value = upper) := by
  induction layers with
  | nil => rfl
  | cons layer layers ih =>
    rw [highest, List.findSome?_cons, layered, List.foldl_cons, onto_none]
    cases setting? layer sect written with
    | none => exact ih
    | some upper => exact foldl_onto layers sect written upper

/-! ### Merged sections -/

/-- No key stands twice in a layer or in one of its sections. -/
structure Regular (layer : Entries) : Prop where
  distinct : Entries.Distinct layer
  sections : ∀ entry ∈ layer, Entries.Distinct entry.2.entries

theorem Regular.section {layer : Entries} (regular : Regular layer) (sect : String) :
    Entries.Distinct ((Entries.getText? layer sect).elim [] Value.entries) := by
  cases found : Entries.getText? layer sect with
  | none => exact List.Pairwise.nil
  | some value =>
    rw [Entries.getText?, Entries.get?, Option.map_eq_some_iff] at found
    obtain ⟨entry, first, rfl⟩ := found
    exact regular.sections entry (List.mem_of_find?_eq_some first)

/-- A name in a section of two merged layers, if the section is a mapping. -/
theorem getText?_mergeEntries {base later : Entries} {sect : String}
    (distinct : Entries.Distinct later)
    (inner : Entries.Distinct ((Entries.getText? later sect).elim [] Value.entries))
    {merged : Value}
    (found : Entries.getText? (mergeEntries base later) sect = some merged)
    (isMap : merged.isMap = true) (written : String) :
    Entries.getText? merged.entries written =
      onto (setting? base sect written) (setting? later sect written) := by
  rw [Entries.getText?, Entries.get?_mergeEntries _ distinct] at found
  rw [setting?, setting?, elim_entries_getText?, elim_entries_getText?]
  unfold Entries.getText? at inner ⊢
  cases upper : Entries.get? later (.text sect) with
  | none =>
    rw [upper, onto_none] at found
    rw [found]
    rfl
  | some value =>
    rw [upper, onto_some, Option.some.injEq] at found
    subst found
    rw [isMap_mergeValue] at isMap
    rw [upper] at inner
    exact get?_entries_mergeValue _ isMap inner _

theorem setting?_of_absent {layer : Entries} {sect : String}
    (absent : Entries.getText? layer sect = none) (written : String) :
    setting? layer sect written = none := by
  rw [setting?, absent]
  rfl

variable {file environment overrides : Entries} {sect : String}

theorem getText?_merge (environmentIs : Regular environment) (overridesAre : Regular overrides) :
    Entries.getText? (Sources.merge file environment overrides) sect =
      onto (Entries.getText? file sect)
        (onto (Entries.getText? environment sect) (Entries.getText? overrides sect)) := by
  rw [Sources.merge, Entries.getText?,
    Entries.get?_mergeEntries _ (environmentIs.distinct.mergeEntries _),
    Entries.get?_mergeEntries _ overridesAre.distinct]
  rfl

/-- A section that is not there is set by no layer. -/
theorem layered_of_absent (environmentIs : Regular environment) (overridesAre : Regular overrides)
    (absent : Entries.getText? (Sources.merge file environment overrides) sect = none)
    (written : String) : layered [overrides, environment, file] sect written = none := by
  have none_of_onto {lower upper : Option Value} (nothing : onto lower upper = none) :
      lower = none ∧ upper = none := by
    cases upper with
    | none => exact ⟨nothing, rfl⟩
    | some value => cases nothing
  rw [getText?_merge environmentIs overridesAre] at absent
  obtain ⟨noFile, upper⟩ := none_of_onto absent
  obtain ⟨noEnvironment, noOverrides⟩ := none_of_onto upper
  simp only [layered, List.foldl_cons, List.foldl_nil, setting?_of_absent noFile,
    setting?_of_absent noEnvironment, setting?_of_absent noOverrides, onto_none]

/-- The value under a name in a merged section. -/
theorem getText?_section_merge (environmentIs : Regular environment)
    (overridesAre : Regular overrides) {merged : Value}
    (found : Entries.getText? (Sources.merge file environment overrides) sect = some merged)
    (isMap : merged.isMap = true) (written : String) :
    Entries.getText? merged.entries written =
      layered [overrides, environment, file] sect written := by
  have upperDistinct : Entries.Distinct (mergeEntries environment overrides) :=
    environmentIs.distinct.mergeEntries _
  have upperFound : Entries.getText? (mergeEntries environment overrides) sect =
      onto (Entries.getText? environment sect) (Entries.getText? overrides sect) :=
    Entries.get?_mergeEntries _ overridesAre.distinct _
  have inner : Entries.Distinct
      ((Entries.getText? (mergeEntries environment overrides) sect).elim [] Value.entries) := by
    have below := environmentIs.section sect
    have above := overridesAre.section sect
    rw [upperFound]
    cases upper : Entries.getText? overrides sect with
    | none => exact below
    | some value =>
      rw [upper] at above
      exact distinct_entries_mergeValue below above
  have upperSetting : setting? (mergeEntries environment overrides) sect written =
      onto (setting? environment sect written) (setting? overrides sect written) := by
    cases present : Entries.getText? (mergeEntries environment overrides) sect with
    | none =>
      rw [upperFound] at present
      cases upper : Entries.getText? overrides sect with
      | none =>
        rw [upper, onto_none] at present
        rw [setting?_of_absent upper, setting?_of_absent present,
          setting?_of_absent (by rw [upperFound, upper, onto_none, present])]
        rfl
      | some value =>
        rw [upper] at present
        cases present
    | some value =>
      -- the section is a mapping as a whole, so what lies above the file is one
      have isMapUpper : value.isMap = true := by
        rw [Entries.getText?, Sources.merge, Entries.get?_mergeEntries _ upperDistinct] at found
        unfold Entries.getText? at present
        rw [present, onto_some, Option.some.injEq] at found
        rw [← isMap_mergeValue, found, isMap]
      rw [setting?, present]
      exact getText?_mergeEntries overridesAre.distinct (overridesAre.section sect) present
        isMapUpper written
  rw [getText?_mergeEntries upperDistinct inner found isMap, upperSetting]
  rfl

/-! ### Spellings of a section -/

/-- An entry of another section leaves a section alone. -/
theorem get?_putSection_other {links : List Link} {sections written : Entries}
    {key name : Scalar} {value : Value} (put : putSection links sections key value = .ok written)
    (apart : (sectionKey key).same name = false) :
    Entries.get? written name = Entries.get? sections name := by
  simp only [putSection] at put
  split at put
  next present found isMap =>
    obtain ⟨whole, _, rfl⟩ := exists_of_map_eq_ok put
    exact Entries.get?_put_other _ _ _ _ apart
  next =>
    obtain rfl := Except.ok.inj put
    exact Entries.get?_put_other _ _ _ _ apart

theorem putSections_cons (links : List Link) (sections : Entries) (entry : Scalar × Value)
    (rest : Entries) : putSections links sections (entry :: rest) =
      putSection links sections entry.1 entry.2 >>= fun next => putSections links next rest :=
  List.foldlM_cons

theorem putSections_append (links : List Link) (sections front back : Entries) :
    putSections links sections (front ++ back) =
      putSections links sections front >>= fun next => putSections links next back :=
  List.foldlM_append

theorem get?_putSections_other {links : List Link} {name : Scalar} (entries : Entries)
    {start written : Entries} (put : putSections links start entries = .ok written)
    (apart : ∀ entry ∈ entries, (sectionKey entry.1).same name = false) :
    Entries.get? written name = Entries.get? start name := by
  induction entries generalizing start with
  | nil =>
    obtain rfl := Except.ok.inj put
    rfl
  | cons entry entries ih =>
    rw [putSections_cons] at put
    obtain ⟨next, first, rest⟩ := exists_of_bind_eq_ok put
    rw [ih rest fun entry member => apart entry (List.mem_cons_of_mem _ member)]
    exact get?_putSection_other first (apart entry (List.mem_cons_self ..))

/-- A section that is set under one key only is held as it is, whether the key is the name of the
section or the id of the check. -/
theorem getText?_putSections {links : List Link} {before after sections : Entries} {key : Scalar}
    {value : Value}
    (put : putSections links [] (before ++ (key, value) :: after) = .ok sections)
    (kind : CheckKind) (spells : key = .text kind.section ∨ key = .text kind.id)
    (alone : ∀ entry ∈ before ++ after,
      (sectionKey entry.1).same (.text kind.section) = false) :
    Entries.getText? sections kind.section = some value := by
  have isSection : sectionKey key = .text kind.section := by
    rcases spells with rfl | rfl
    · exact sectionKey_section kind
    · exact sectionKey_id kind
  rw [putSections_append] at put
  obtain ⟨start, first, onwards⟩ := exists_of_bind_eq_ok put
  have new : Entries.get? start (sectionKey key) = none := by
    rw [isSection, get?_putSections_other before first fun entry member =>
      alone entry (List.mem_append_left _ member)]
    rfl
  rw [putSections_cons, putSection_new new] at onwards
  obtain ⟨_, written, rest⟩ := exists_of_bind_eq_ok onwards
  obtain rfl := Except.ok.inj written
  rw [Entries.getText?, get?_putSections_other after rest fun entry member =>
    alone entry (List.mem_append_right _ member), isSection, Entries.get?_put_self]

end SpecLint.Settings
