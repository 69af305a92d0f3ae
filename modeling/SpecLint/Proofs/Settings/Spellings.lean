import SpecLint.Proofs.Data.Compatible
import SpecLint.Proofs.Settings.Clashes

/-!
# Sections in any order

A file may set some options of a check under the id of the check and others under the name of its
section. As long as the two do not set the same option to different values, it does not matter which
of them comes first in the file, and no setting of either is lost.

## Main result

`normalizeSections_of_compatible`: the sections of a file whose spellings agree are the same in
every order of the file, and hold what it sets and nothing else.
-/
namespace SpecLint.Settings

open SpecLint.Data SpecLint.Check

/-- Every section of a check is a mapping, and the two spellings of a section agree wherever both
set the same key. Mappings that contain themselves might agree without end, so one of the two is
without these. -/
structure CompatibleSections (entries : Entries) : Prop where
  distinct : entries.Distinct
  mappings : ∀ entry ∈ entries, ∀ kind, Spells kind entry.1 →
    entry.2.isMap = true ∧ Keyed entry.2
  agree : ∀ (kind : CheckKind) (byId bySection : Value),
    (.text kind.id, byId) ∈ entries → (.text kind.section, bySection) ∈ entries →
    (Nested byId ∨ Nested bySection) ∧ Compatible byId bySection

/-- The sections hold every setting of the entries, under the section of its key, and nothing
else. -/
structure Gathers (entries sections : Entries) : Prop where
  kept : ∀ entry ∈ entries, ∀ (path : List Scalar) (setting : Value),
    entry.2.at? path = some setting →
    ∃ held, (Value.map sections).at? (sectionKey entry.1 :: path) = some held ∧ Kept setting held
  only : ∀ (key : Scalar) (path : List Scalar) (held : Value),
    (Value.map sections).at? (key :: path) = some held →
    ∃ entry ∈ entries, (sectionKey entry.1).same key = true ∧
      ∃ setting, entry.2.at? path = some setting ∧ Kept setting held

theorem CompatibleSections.perm {entries other : Entries} (compatible : CompatibleSections entries)
    (reordered : other.Perm entries) : CompatibleSections other where
  distinct := by
    refine reordered.symm.pairwise compatible.distinct fun apart => ?_
    rwa [Scalar.same_comm]
  mappings entry member := compatible.mappings entry (reordered.mem_iff.mp member)
  agree kind byId bySection one two :=
    compatible.agree kind byId bySection (reordered.mem_iff.mp one) (reordered.mem_iff.mp two)

/-! ### Sections as a merge -/

/-- Under each key, a merge holds what the entries of that key come to, one over the other. -/
theorem get?_mergeEntries_eq_foldl (base later : Entries) (key : Scalar) :
    Entries.get? (mergeEntries base later) key =
      (later.filter fun entry => entry.1.same key).foldl
        (fun held entry => some (mergeValue held entry.2)) (Entries.get? base key) := by
  induction later generalizing base with
  | nil => rw [mergeEntries_nil, List.filter_nil, List.foldl_nil]
  | cons entry rest ih =>
    obtain ⟨name, value⟩ := entry
    rw [mergeEntries, ih]
    cases same : name.same key with
    | true =>
      rw [List.filter_cons, if_pos same, List.foldl_cons, ← Entries.get?_congr same,
        ← Entries.get?_congr same, Entries.get?_put_self]
    | false =>
      rw [List.filter_cons, if_neg (Bool.eq_false_iff.mp same), Entries.get?_put_other _ _ _ _ same]

theorem eq_of_mergeUnder {links : List Link} {present override merged : Value}
    (isMap : present.isMap = true) (done : mergeUnder links present override = .ok merged) :
    merged = .map (mergeEntries present.entries override.entries) := by
  obtain ⟨entries, shape⟩ := Value.exists_map_of_isMap isMap
  unfold mergeUnder at done
  split at done
  · cases done
  · rw [shape] at done
    rw [Value.entries, shape]
    exact (Except.ok.inj done).symm

/-- An entry is merged into its section unless it is a mapping and the section is none. -/
theorem eq_of_putSection {links : List Link} {sections written : Entries} {key : Scalar}
    {value : Value} (fits : ∀ present, Entries.get? sections (sectionKey key) = some present →
      value.isMap = true → present.isMap = true)
    (put : putSection links sections key value = .ok written) :
    written = Entries.put (sectionKey key)
      (mergeValue (Entries.get? sections (sectionKey key)) value) sections := by
  simp only [putSection] at put
  split at put
  next present found isMap =>
    have held := fits present found isMap
    obtain ⟨merged, done, rfl⟩ := exists_of_map_eq_ok put
    rw [eq_of_mergeUnder held done, found, mergeValue_maps held isMap]
  next alone =>
    -- what is new, or no mapping, is written as it is, and a merge comes to the same
    obtain rfl := Except.ok.inj put
    cases found : Entries.get? sections (sectionKey key) with
    | none => rw [mergeValue_none]
    | some present =>
      have single : value.isMap = false :=
        Bool.eq_false_iff.mpr fun isMap => alone present found isMap
      rw [mergeValue_of_not_isMap _ single]

/-- The entries with the sections that they stand for. -/
def moved (entries : Entries) : Entries :=
  entries.map fun entry => (sectionKey entry.1, entry.2)

/-- If the sections of checks are mappings, bringing them together merges all entries. -/
theorem eq_of_putSections {links : List Link} {entries start sections : Entries}
    (distinct : entries.Distinct)
    (mappings : ∀ entry ∈ entries, ∀ kind, Spells kind entry.1 → entry.2.isMap = true)
    (fits : ∀ entry ∈ entries, ∀ present, Entries.get? start (sectionKey entry.1) = some present →
      entry.2.isMap = true → present.isMap = true)
    (put : putSections links start entries = .ok sections) :
    sections = mergeEntries start (moved entries) := by
  induction entries generalizing start with
  | nil =>
    rw [moved, List.map_nil, mergeEntries_nil]
    exact (Except.ok.inj put).symm
  | cons entry rest ih =>
    obtain ⟨apart, others⟩ := List.pairwise_cons.mp distinct
    rw [putSections_cons] at put
    obtain ⟨next, first, later⟩ := exists_of_bind_eq_ok put
    obtain rfl := eq_of_putSection (fits entry List.mem_cons_self) first
    refine ih others (fun later member => mappings later (List.mem_cons_of_mem _ member))
      (fun later member present found isMap => ?_) later
    cases shared : (sectionKey entry.1).same (sectionKey later.1) with
    | true =>
      -- another entry of the same section is a spelling of it, so what is written is a mapping
      rw [← Entries.get?_congr shared, Entries.get?_put_self] at found
      obtain rfl := Option.some.inj found
      obtain ⟨kind, spells, -⟩ := exists_spells (apart later member) shared
      rw [isMap_mergeValue]
      exact mappings entry List.mem_cons_self kind spells
    | false =>
      rw [Entries.get?_put_other _ _ _ _ shared] at found
      exact fits later (List.mem_cons_of_mem _ member) present found isMap

/-- The values under two spellings of one section agree. -/
theorem CompatibleSections.agree_of_spells {entries : Entries}
    (compatible : CompatibleSections entries) {kind : CheckKind} {first second : Scalar × Value}
    (one : first ∈ entries) (two : second ∈ entries) (apart : first.1.same second.1 = false)
    (left : Spells kind first.1) (right : Spells kind second.1) :
    (Nested first.2 ∨ Nested second.2) ∧ Compatible first.2 second.2 := by
  obtain ⟨first, lower⟩ := first
  obtain ⟨second, upper⟩ := second
  rcases left with rfl | rfl <;> rcases right with rfl | rfl
  · rw [Scalar.same_refl] at apart
    cases apart
  · obtain ⟨nested, agree⟩ := compatible.agree kind upper lower two one
    exact ⟨nested.symm, agree.symm⟩
  · exact compatible.agree kind lower upper one two
  · rw [Scalar.same_refl] at apart
    cases apart

/-- Spellings that agree do not clash. -/
theorem CompatibleSections.not_clash {entries : Entries}
    (compatible : CompatibleSections entries) : ¬Clash entries := by
  rintro ⟨kind, before, first, present, between, second, later, after, split, one, two, -, refuses⟩
  have lower : (first, present) ∈ entries := by simp [split]
  have upper : (second, later) ∈ entries := by simp [split]
  have apart : first.same second = false := by
    have distinct := compatible.distinct
    rw [split] at distinct
    exact (List.pairwise_append.mp distinct).2.2 (first, present) (by simp) _ List.mem_cons_self
  obtain ⟨inner, isMap⟩ :=
    Value.exists_map_of_isMap (compatible.mappings _ lower kind one).1
  -- a mapping refuses another one only if the two lead on together without end
  rw [Refuses, isMap] at refuses
  rcases (compatible.agree_of_spells lower upper apart one two).1 with nested | nested
  · exact nested.not_endless refuses
  · exact nested.not_endless refuses.symm

theorem normalizeSections_eq_merge {entries : Entries} (compatible : CompatibleSections entries) :
    normalizeSections entries = .ok (mergeEntries [] (moved entries)) := by
  obtain ⟨sections, normalized⟩ := exists_ok_of_not_fails
    (mt (fails_normalizeSections_iff compatible.distinct).mp compatible.not_clash)
  rw [normalized]
  refine congrArg Except.ok (eq_of_putSections compatible.distinct ?_ ?_ normalized)
  · exact fun entry member kind spells => (compatible.mappings entry member kind spells).1
  · exact fun _ _ _ found => nomatch found

/-! ### What a section is made of -/

/-- The values of all entries that stand for a section. -/
def filed (entries : Entries) (name : Scalar) : List Value :=
  (entries.filter fun entry => (sectionKey entry.1).same name).map (·.2)

theorem mem_filed {entries : Entries} {name : Scalar} {value : Value} :
    value ∈ filed entries name ↔
      ∃ entry ∈ entries, (sectionKey entry.1).same name = true ∧ entry.2 = value := by
  simp only [filed, List.mem_map, List.mem_filter, and_assoc]

/-- A section is absent, set once, or set by two values that agree. -/
inductive Composed : List Value → Option Value → Prop where
  | absent : Composed [] none
  | single (value : Value) : Composed [value] (some value)
  | both {lower upper : Value} (below : Keyed lower) (above : Keyed upper)
      (compatible : Compatible lower upper) :
      Composed [lower, upper] (some (mergeValue (some lower) upper))

/-- At most two entries stand for a section, and then they agree. -/
theorem composed_filed {entries : Entries} (compatible : CompatibleSections entries)
    (name : Scalar) :
    Composed (filed entries name) ((filed entries name).foldl
      (fun held value => some (mergeValue held value)) none) := by
  have apart : (entries.filter fun entry => (sectionKey entry.1).same name).Pairwise
      fun first later => first.1.same later.1 = false :=
    List.Pairwise.filter _ compatible.distinct
  have among : ∀ entry ∈ entries.filter fun entry => (sectionKey entry.1).same name,
      entry ∈ entries ∧ (sectionKey entry.1).same name = true :=
    fun entry member => List.mem_filter.mp member
  have shared {first second : Scalar × Value} (one : (sectionKey first.1).same name = true)
      (two : (sectionKey second.1).same name = true) :
      (sectionKey first.1).same (sectionKey second.1) = true := by
    rw [Scalar.same_congr one, Scalar.same_comm]
    exact two
  unfold filed
  generalize (entries.filter fun entry => (sectionKey entry.1).same name) = found at apart among
  match found with
  | [] => exact .absent
  | [entry] =>
    rw [List.map_cons, List.map_nil, List.foldl_cons, List.foldl_nil, mergeValue_none]
    exact .single entry.2
  | [first, second] =>
    obtain ⟨one, isFirst⟩ := among first (by simp)
    obtain ⟨two, isSecond⟩ := among second (by simp)
    have differ := (List.pairwise_cons.mp apart).1 second (by simp)
    -- different keys of one section are its two spellings
    obtain ⟨kind, left, right⟩ := exists_spells differ (shared isFirst isSecond)
    rw [List.map_cons, List.map_cons, List.map_nil, List.foldl_cons, List.foldl_cons,
      List.foldl_nil, mergeValue_none]
    exact .both (compatible.mappings first one kind left).2
      (compatible.mappings second two kind right).2
      (compatible.agree_of_spells one two differ left right).2
  | first :: second :: third :: rest =>
    obtain ⟨one, isFirst⟩ := among first (by simp)
    obtain ⟨two, isSecond⟩ := among second (by simp)
    obtain ⟨three, isThird⟩ := among third (by simp)
    obtain ⟨fromFirst, behind⟩ := List.pairwise_cons.mp apart
    have fromSecond := (List.pairwise_cons.mp behind).1 third (by simp)
    have differ := fromFirst second (by simp)
    obtain ⟨kind, left, right⟩ := exists_spells differ (shared isFirst isSecond)
    -- the third key stands for the same section, which has two spellings only
    have notThird : ¬Spells kind third.1 := by
      refine not_spells_of_apart left right differ ?_ ?_
      · rw [Scalar.same_comm]
        exact fromFirst third (by simp)
      · rw [Scalar.same_comm]
        exact fromSecond
    refine absurd (same_section_iff.mp ?_) notThird
    rw [← sectionKey_of_spells left]
    exact shared isThird isFirst

/-- What a section holds is composed of the values of its entries. -/
theorem composed_normalizeSections {entries sections : Entries}
    (compatible : CompatibleSections entries)
    (normalized : normalizeSections entries = .ok sections) (name : Scalar) :
    Composed (filed entries name) (Entries.get? sections name) := by
  rw [normalizeSections_eq_merge compatible] at normalized
  obtain rfl := Except.ok.inj normalized
  have values : Entries.get? (mergeEntries [] (moved entries)) name = (filed entries name).foldl
      (fun held value => some (mergeValue held value)) none := by
    rw [get?_mergeEntries_eq_foldl, moved, filed, List.filter_map, List.foldl_map, List.foldl_map]
    rfl
  rw [values]
  exact composed_filed compatible name

namespace Composed

variable {values : List Value} {held : Option Value}

theorem isSome_at? (composed : Composed values held) (path : List Scalar) :
    (held.bind (Value.at? path)).isSome = true ↔
      ∃ value ∈ values, (value.at? path).isSome = true := by
  cases composed with
  | absent => simp
  | single value => simp
  | both _ above compatible =>
    rw [Option.bind_some, at?_mergeValue above compatible, isSome_onto]
    simp

theorem exists_kept (composed : Composed values held) {value setting : Value}
    (member : value ∈ values) {path : List Scalar} (found : value.at? path = some setting) :
    ∃ kept, held.bind (Value.at? path) = some kept ∧ Kept setting kept := by
  cases composed with
  | absent => cases member
  | single other =>
    obtain rfl := List.mem_singleton.mp member
    exact ⟨setting, found, kept_refl setting⟩
  | both _ above compatible =>
    rcases List.mem_pair.mp member with rfl | rfl
    · exact exists_kept_of_lower above compatible found
    · exact exists_kept_of_upper above compatible found

/-- The order of the values does not matter. -/
theorem alike_of_perm {others : List Value} {other : Option Value} (composed : Composed values held)
    (reordered : Composed others other) (perm : others.Perm values) :
    Option.Rel Alike other held := by
  cases composed with
  | absent =>
    obtain rfl := perm.eq_nil
    cases reordered
    exact .none
  | single value =>
    obtain rfl := List.perm_singleton.mp perm
    cases reordered
    exact .some (.same value)
  | @both lower upper below above compatible =>
    cases reordered with
    | absent => cases perm.symm.eq_nil
    | single value => cases List.perm_singleton.mp perm.symm
    | @both first second _ _ _ =>
      -- two values stand in the same order or in the opposite one
      rcases List.mem_pair.mp (perm.mem_iff.mp List.mem_cons_self) with rfl | rfl
      · obtain rfl : second = upper := by
          simpa using (List.perm_cons first).mp perm
        exact .some (.same _)
      · obtain rfl : second = lower := by
          simpa using (List.perm_cons first).mp (perm.trans (.swap ..))
        exact .some (alike_mergeValue_swap below above compatible)

end Composed

/-! ### Reordered files -/

theorem at?_map_cons (sections : Entries) (key : Scalar) (path : List Scalar) :
    (Value.map sections).at? (key :: path) =
      (Entries.get? sections key).bind (Value.at? path) := rfl

theorem gathers_of_compatible {entries sections : Entries}
    (compatible : CompatibleSections entries)
    (normalized : normalizeSections entries = .ok sections) : Gathers entries sections where
  kept entry member path setting found := by
    rw [at?_map_cons]
    exact (composed_normalizeSections compatible normalized _).exists_kept
      (mem_filed.mpr ⟨entry, member, Scalar.same_refl _, rfl⟩) found
  only key path held found := by
    rw [at?_map_cons] at found
    have composed := composed_normalizeSections compatible normalized key
    obtain ⟨value, among, isSet⟩ := (composed.isSome_at? path).mp (by rw [found]; rfl)
    obtain ⟨setting, set⟩ := Option.isSome_iff_exists.mp isSet
    obtain ⟨kept, holds, keeps⟩ := composed.exists_kept among set
    rw [found] at holds
    obtain rfl := Option.some.inj holds
    obtain ⟨entry, member, same, rfl⟩ := mem_filed.mp among
    exact ⟨entry, member, same, setting, set, keeps⟩

theorem alike_normalizeSections {entries other sections reordered : Entries}
    (compatible : CompatibleSections entries) (perm : other.Perm entries)
    (normalized : normalizeSections entries = .ok sections)
    (again : normalizeSections other = .ok reordered) :
    Alike (.map reordered) (.map sections) := by
  have related (key : Scalar) :
      Option.Rel Alike (Entries.get? reordered key) (Entries.get? sections key) := by
    refine (composed_normalizeSections compatible normalized key).alike_of_perm
      (composed_normalizeSections (compatible.perm perm) again key) ?_
    exact (perm.filter _).map _
  refine .map (fun key => ?_) fun key first second one two => ?_
  · have values := related key
    generalize Entries.get? reordered key = first, Entries.get? sections key = second at values ⊢
    cases values <;> rfl
  · have values := related key
    rw [one, two] at values
    cases values with
    | some alike => exact alike

/-- If the sections of checks are mappings and the spellings of each agree, a file comes to the same
sections in every order of its keys, and they hold every setting of the file and nothing else. To
merge a nested mapping a second time never changes anything. -/
theorem normalizeSections_of_compatible :
    (∀ entries, CompatibleSections entries → ∃ sections,
      normalizeSections entries = .ok sections ∧ Gathers entries sections ∧
        ∀ other : Entries, other.Perm entries → ∃ reordered,
          normalizeSections other = .ok reordered ∧ Alike (.map reordered) (.map sections)) ∧
    ∀ base override : Entries, Nested (.map override) →
      mergeEntries (mergeEntries base override) override = mergeEntries base override := by
  refine ⟨fun entries compatible => ?_, fun base override nested =>
    nested.mergeEntries_mergeEntries base⟩
  have normalized := normalizeSections_eq_merge compatible
  refine ⟨_, normalized, gathers_of_compatible compatible normalized, fun other perm => ?_⟩
  have again := normalizeSections_eq_merge (compatible.perm perm)
  exact ⟨_, again, alike_normalizeSections compatible perm normalized again⟩

/-- Options of one check under its id, with a mapping inside. -/
def setById : Entries :=
  [(.text "Enabled", .bool true), (.text "limits", .map [(.text "low", .int 1)])]

/-- Options of the same check under its section. -/
def setBySection : Entries :=
  [(.text "limits", .map [(.text "high", .int 9)]), (.text "Enabled", .int 1)]

/-- A file that uses both names of the check. -/
def spelledTwice : Entries :=
  [(.text "RSpecParity/SufficientContexts", .map setById),
    (.text "logging", .map [(.text "level", .text "DEBUG")]),
    (.text "sufficient_contexts", .map setBySection)]

theorem nested_setById : Nested (.map setById) := by
  refine .map (by unfold Entries.Distinct; decide) fun entry member => ?_
  rcases List.mem_pair.mp member with rfl | rfl
  · exact .leaf rfl
  · refine .map (List.pairwise_singleton _ _) fun entry member => ?_
    rw [List.mem_singleton.mp member]
    exact .leaf rfl

theorem nested_setBySection : Nested (.map setBySection) := by
  refine .map (by unfold Entries.Distinct; decide) fun entry member => ?_
  rcases List.mem_pair.mp member with rfl | rfl
  · refine .map (List.pairwise_singleton _ _) fun entry member => ?_
    rw [List.mem_singleton.mp member]
    exact .leaf rfl
  · exact .leaf rfl

/-- One option is set to the same on both sides, and the mappings under the other one share no
key. -/
theorem compatible_setById : Compatible (.map setById) (.map setBySection) := by
  refine .of_entries fun first one second two same => ?_
  rcases List.mem_pair.mp one with rfl | rfl <;> rcases List.mem_pair.mp two with rfl | rfl
  · cases same
  · exact .equal (.scalar rfl)
  · refine .of_entries fun first one second two same => ?_
    rw [List.mem_singleton.mp one, List.mem_singleton.mp two] at same
    cases same
  · cases same

theorem compatibleSections_spelledTwice : CompatibleSections spelledTwice where
  distinct := by unfold Entries.Distinct; decide
  mappings entry member kind spells := by
    simp only [spelledTwice, List.mem_cons, List.not_mem_nil, or_false] at member
    rcases member with rfl | rfl | rfl
    · exact ⟨rfl, nested_setById.keyed⟩
    · exact absurd spells (by cases kind <;> unfold Spells <;> decide)
    · exact ⟨rfl, nested_setBySection.keyed⟩
  agree kind byId bySection one two := by
    simp only [spelledTwice, List.mem_cons, List.not_mem_nil, or_false, Prod.mk.injEq] at one two
    obtain ⟨isId, rfl⟩ | ⟨isId, -⟩ | ⟨isId, -⟩ := one
    · obtain ⟨isSection, -⟩ | ⟨isSection, -⟩ | ⟨-, rfl⟩ := two
      · exact absurd isSection (by cases kind <;> decide)
      · exact absurd isSection (by cases kind <;> decide)
      · exact ⟨.inl nested_setById, compatible_setById⟩
    · exact absurd isId (by cases kind <;> decide)
    · exact absurd isId (by cases kind <;> decide)

/-- Here the theorem is used on that file, and on its two sections as mappings to merge. -/
theorem normalizeSections_of_compatible_spelledTwice :
    CompatibleSections spelledTwice ∧ Nested (.map setBySection) ∧
      (∃ sections, normalizeSections spelledTwice = .ok sections ∧
        Gathers spelledTwice sections ∧
        ∀ other : Entries, other.Perm spelledTwice → ∃ reordered,
          normalizeSections other = .ok reordered ∧ Alike (.map reordered) (.map sections)) ∧
      mergeEntries (mergeEntries setById setBySection) setBySection =
        mergeEntries setById setBySection :=
  ⟨compatibleSections_spelledTwice, nested_setBySection,
    normalizeSections_of_compatible.1 spelledTwice compatibleSections_spelledTwice,
    normalizeSections_of_compatible.2 setById setBySection nested_setBySection⟩

end SpecLint.Settings
