import SpecLint.Proofs.Settings.Layers

/-!
# Layers without repeated keys

Variables are written into sections one after the other, and writing never repeats a key. Overrides
come from mappings, which repeat none either.

## Main results

`regular_ofEnvironment` and `regular_fromOverrides`: no key stands twice in these layers.
-/
namespace SpecLint

open SpecLint.Data

/-! ### Values of JSON texts -/

/-- Whether the value is a collection that contains itself. -/
def Data.Value.isLooped : Value → Bool
  | .looped .. => true
  | _ => false

theorem Data.Value.bare_of_not_isLooped {value : Value} (plain : value.isLooped = false) :
    value.bare = value := by
  cases value with
  | looped number value => cases plain
  | _ => rfl

namespace Json

theorem isLooped_readNumber (text : List Char) :
    (readNumber text).all fun found => !found.1.isLooped := by
  unfold readNumber
  split
  extract_lets
  split
  · rfl
  · split
    split
    · split <;> rfl
    · rfl

theorem isLooped_readLiteral (text : List Char) :
    (readLiteral text).all fun found => !found.1.isLooped := by
  unfold readLiteral
  cases found : literals.find? fun literal => literal.1.isPrefixOf text with
  | none => rfl
  | some literal =>
    have plain : literals.all fun literal => !literal.2.isLooped := by decide
    exact List.all_eq_true.mp plain literal (List.mem_of_find?_eq_some found)

/-- A JSON text never stands for a collection that contains itself. -/
theorem isLooped_readValue (budget : Nat) (text : List Char) :
    (readValue budget text).all fun found => !found.1.isLooped := by
  have read {α : Type} (found : Option (α × List Char)) (make : α → Value)
      (plain : ∀ item, (make item).isLooped = false) :
      (found.map fun part => (make part.1, part.2)).all fun found => !found.1.isLooped := by
    cases found with
    | none => rfl
    | some part => simp [plain]
  cases budget with
  | zero => simp [readValue]
  | succ budget =>
    unfold readValue
    split
    · exact read _ Value.text fun _ => rfl
    · split
      · rfl
      · exact read _ Value.list fun _ => rfl
    · split
      · rfl
      · exact read _ Value.map fun _ => rfl
    · have literal := isLooped_readLiteral text
      cases found : readLiteral text with
      | none =>
        rw [Option.none_or]
        exact isLooped_readNumber text
      | some part =>
        rw [found] at literal
        exact literal

theorem isLooped_of_parse {text : String} {value : Value} (parsed : parse text = some value) :
    value.isLooped = false := by
  simp only [parse] at parsed
  split at parsed
  next found rest read =>
    have plain := isLooped_readValue (2 * (skipSpace text.toList).length + 2)
      (skipSpace text.toList)
    rw [read] at plain
    split at parsed
    · obtain rfl := Option.some.inj parsed
      simpa using plain
    · cases parsed
  next => cases parsed

end Json

namespace Settings

/-! ### The environment -/

theorem distinct_foldl {α : Type} {step : Entries → α → Entries}
    (keeps : ∀ found item, Entries.Distinct found → Entries.Distinct (step found item))
    (items : List α) {found : Entries} (distinct : Entries.Distinct found) :
    Entries.Distinct (items.foldl step found) := by
  induction items generalizing found with
  | nil => exact distinct
  | cons item items ih => exact ih (keeps found item distinct)

theorem distinct_spelled (sect : Section) (entries : Entries) :
    Entries.Distinct (sect.spelled entries) := by
  refine distinct_foldl ?_ entries List.Pairwise.nil
  rintro found ⟨key, value⟩ distinct
  exact distinct.put ..

theorem isLooped_of_parseJson {written : String} {value : Value}
    (parsed : parseJson written = .ok value) : value.isLooped = false := by
  unfold parseJson at parsed
  split at parsed
  next found read =>
    cases parsed
    exact Json.isLooped_of_parse read
  next => cases parsed

/-- What variables say about a section repeats no key. -/
theorem distinct_fromVariables {sect : Section} {assignments : Entries} {value : Value}
    (found : sect.fromVariables assignments = .ok (some value)) :
    Entries.Distinct value.entries := by
  unfold Section.fromVariables at found
  extract_lets finish at found
  have finished (whole : Option Value) (plain : ∀ data, whole = some data → data.isLooped = false)
      (made : finish whole = .ok (some value)) : Entries.Distinct value.entries := by
    simp only [finish] at made
    split at made
    next =>
      obtain ⟨options, _, written⟩ := exists_of_bind_eq_ok made
      have spelled := Except.ok.inj written
      split at spelled
      · cases spelled
      · obtain rfl := Option.some.inj spelled
        exact distinct_spelled ..
    next => cases made
    next entries =>
      obtain ⟨options, _, written⟩ := exists_of_bind_eq_ok made
      obtain rfl := Option.some.inj (Except.ok.inj written)
      exact distinct_spelled ..
    next other _ noMap =>
      -- anything else is no mapping and has no keys
      obtain rfl := Option.some.inj (Except.ok.inj made)
      rw [Value.entries, Value.bare_of_not_isLooped (plain _ rfl)]
      split
      next entries isMap => exact absurd rfl (noMap entries)
      next => exact List.Pairwise.nil
  split at found
  next written _ =>
    obtain ⟨whole, read, made⟩ := exists_of_bind_eq_ok found
    obtain ⟨data, parsed, rfl⟩ := exists_of_map_eq_ok read
    refine finished _ (fun other same => ?_) made
    obtain rfl := Option.some.inj same
    exact isLooped_of_parseJson parsed
  next =>
    have made : finish none = .ok (some value) := found
    refine finished none (fun other absent => ?_) made
    cases absent

/-- The entry of a section in the environment, if variables say anything about it. -/
def sectionEntry (assignments : Entries) (sect : Section) :
    Except EnvironmentFault (Option (Scalar × Value)) := do
  return (← sect.fromVariables assignments).map fun value => (Scalar.text sect.name, value)

theorem ofEnvironment_eq (environment : Environment) :
    ofEnvironment environment =
      (sections.mapM (sectionEntry (lowerNames environment))).map (·.filterMap id) := rfl

theorem sectionEntry_eq_some {assignments : Entries} {sect : Section} {entry : Scalar × Value}
    (found : sectionEntry assignments sect = .ok (some entry)) :
    entry.1 = .text sect.name ∧ Entries.Distinct entry.2.entries := by
  unfold sectionEntry at found
  obtain ⟨value, said, made⟩ := exists_of_bind_eq_ok found
  cases value with
  | none => cases made
  | some value =>
    obtain rfl := Option.some.inj (Except.ok.inj made)
    exact ⟨rfl, distinct_fromVariables said⟩

/-- The entries of sections with different names. -/
theorem regular_mapM {assignments : Entries} {sects : List Section}
    (names : (sects.map Section.name).Nodup) {found : List (Option (Scalar × Value))}
    (read : sects.mapM (sectionEntry assignments) = .ok found) :
    Regular (found.filterMap id) ∧
      ∀ entry ∈ found.filterMap id, ∃ sect ∈ sects, entry.1 = .text sect.name := by
  induction sects generalizing found with
  | nil =>
    obtain rfl := Except.ok.inj read
    exact ⟨⟨List.Pairwise.nil, by simp⟩, by simp⟩
  | cons sect sects ih =>
    rw [List.map_cons, List.nodup_cons] at names
    rw [List.mapM_cons] at read
    obtain ⟨entry, here, onwards⟩ := exists_of_bind_eq_ok read
    obtain ⟨others, later, both⟩ := exists_of_bind_eq_ok onwards
    obtain rfl := Except.ok.inj both
    obtain ⟨regular, named⟩ := ih names.2 later
    have behind : ∀ entry ∈ others.filterMap id,
        ∃ other ∈ sect :: sects, entry.1 = .text other.name := by
      intro entry member
      obtain ⟨other, among, name⟩ := named entry member
      exact ⟨other, List.mem_cons_of_mem _ among, name⟩
    cases entry with
    | none => exact ⟨regular, behind⟩
    | some entry =>
      obtain ⟨name, distinct⟩ := sectionEntry_eq_some here
      have listed : (some entry :: others).filterMap id = entry :: others.filterMap id := rfl
      rw [listed]
      refine ⟨⟨List.pairwise_cons.mpr ⟨?_, regular.distinct⟩, ?_⟩, ?_⟩
      · -- the names of the other sections are different
        intro other member
        obtain ⟨below, among, otherName⟩ := named other member
        rw [name, otherName, Scalar.same_text, beq_eq_false_iff_ne]
        intro same
        exact names.1 (same ▸ List.mem_map_of_mem among)
      · exact List.forall_mem_cons.mpr ⟨distinct, regular.sections⟩
      · exact List.forall_mem_cons.mpr ⟨⟨sect, List.mem_cons_self .., name⟩, behind⟩

/-- The environment repeats no key. -/
theorem regular_ofEnvironment {environment : Environment} {entries : Entries}
    (read : ofEnvironment environment = .ok entries) : Regular entries := by
  rw [ofEnvironment_eq] at read
  obtain ⟨listed, found, rfl⟩ := exists_of_map_eq_ok read
  exact (regular_mapM (by decide) found).1

end Settings

/-! ### Overrides -/

/-- Neither the overrides nor their sections repeat a key. -/
structure Sources.DistinctOverrides (sources : Sources) : Prop where
  names : (sources.overrides.map (·.1)).Nodup
  sections : ∀ entry ∈ sources.overrides, Entries.Distinct entry.2.entries

open Settings

theorem lowerName_sectionName {name : String} (member : name ∈ sectionNames) :
    lowerName name = name := by
  have all : ∀ name ∈ sectionNames, lowerName name = name := by decide +kernel
  exact all name member

/-- Overrides repeat no key as sections either. -/
theorem regular_fromOverrides {sources : Sources} (distinct : sources.DistinctOverrides) :
    Regular sources.fromOverrides := by
  unfold Sources.fromOverrides
  constructor
  · refine List.pairwise_append.mpr ⟨?_, ?_, ?_⟩
    · refine List.Pairwise.filterMap _ ?_ (by decide : sectionNames.Nodup)
      intro first second differ left foundLeft right foundRight
      obtain ⟨_, _, rfl⟩ := Option.map_eq_some_iff.mp foundLeft
      obtain ⟨_, _, rfl⟩ := Option.map_eq_some_iff.mp foundRight
      rw [Scalar.same_text, beq_eq_false_iff_ne]
      exact differ
    · have names : (sources.overrides).Pairwise fun first later => first.1 ≠ later.1 :=
        List.pairwise_map.mp distinct.names
      refine List.pairwise_map.mpr ((names.filter _).imp fun differ => ?_)
      rw [Scalar.same_text, beq_eq_false_iff_ne]
      exact differ
    · intro known isKnown other isOther
      -- a section name is its own lower-case form, so the other one would be known
      obtain ⟨name, member, found⟩ := List.mem_filterMap.mp isKnown
      obtain ⟨_, _, rfl⟩ := Option.map_eq_some_iff.mp found
      obtain ⟨entry, kept, rfl⟩ := List.mem_map.mp isOther
      have unknown := (List.mem_filter.mp kept).2
      rw [Scalar.same_text, beq_eq_false_iff_ne]
      rintro rfl
      have known : sectionNames.any (fun name => lowerName entry.1 == name) = true :=
        List.any_eq_true.mpr ⟨_, member, by rw [lowerName_sectionName member, beq_self_eq_true]⟩
      simp [known] at unknown
  · intro entry member
    rcases List.mem_append.mp member with isKnown | isOther
    · obtain ⟨name, _, found⟩ := List.mem_filterMap.mp isKnown
      obtain ⟨override, first, rfl⟩ := Option.map_eq_some_iff.mp found
      exact distinct.sections override (List.mem_of_find?_eq_some first)
    · obtain ⟨override, kept, rfl⟩ := List.mem_map.mp isOther
      exact distinct.sections override (List.mem_filter.mp kept).1

end SpecLint
