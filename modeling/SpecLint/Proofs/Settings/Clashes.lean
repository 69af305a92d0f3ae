import SpecLint.Proofs.Data.Attempt
import SpecLint.Proofs.Data.Descents
import SpecLint.Proofs.Settings.Layers

/-!
# Sections set twice

A file may hold the options of a check under the name of its section and under the id of the check.
The later of both is merged into the earlier one if it is a mapping, whatever the earlier one is. A
mapping takes in any other, unless the two lead on together without end. A list takes in what
addresses its items by number, a set nothing, and a scalar or a tuple not even that.

## Main result

`fails_normalizeSections_iff`: the sections of a file are brought together unless some section is
set twice in such a way.
-/
namespace SpecLint.Settings

open SpecLint.Data SpecLint.Check

/-! ### What cannot be merged -/

/-- An entry cannot be written into a list: it addresses no item of it, or leads on without end
together with the item that it is merged into. -/
def Stuck (links : List Link) (items : List Value) (entry : Scalar × Value) : Prop :=
  Fails (itemIndex items.length entry.1) ∨
    ∃ index present, itemIndex items.length entry.1 = .ok index ∧ hasItem items entry.1 = true ∧
      items[index]? = some present ∧ Endless links present entry.2

/-- What a mapping cannot be merged into: a mapping with which it leads on without end, a list in
which one of its entries is stuck after those before it are written, a set unless there is nothing
to merge, and anything else. -/
def Refuses (links : List Link) (present later : Value) : Prop :=
  match present.bare with
  | .map _ => Endless links present later
  | .list items => ∃ before entry after written, later.entries = before ++ entry :: after ∧
      before.foldlM (writeItem links) items = .ok written ∧ Stuck links written entry
  | .set _ => later.entries ≠ []
  | .scalar _ | .tuple _ | .looped .. => True

theorem fails_mergeInto {links : List Link} {old : Option Value} {value : Value} :
    Fails (mergeInto links old value) ↔
      ∃ present, old = some present ∧ Endless links present value := by
  unfold mergeInto
  cases old with
  | none => simp
  | some present =>
    rw [Option.any_some]
    split
    next endless => simp [leadOnForever_iff.mp endless]
    next ends => simp [mt leadOnForever_iff.mpr ends]

theorem fails_writeItem {links : List Link} {items : List Value} {entry : Scalar × Value} :
    Fails (writeItem links items entry) ↔ Stuck links items entry := by
  simp only [writeItem, Stuck, fails_bind]
  refine or_congr_right (exists_congr fun index => ?_)
  rw [exists_and_left]
  refine and_congr_right' ?_
  split
  next held => simp only [fails_map, fails_mergeInto, held, true_and]
  next absent =>
    refine iff_of_false (not_fails_ok _) ?_
    rintro ⟨_, held, -⟩
    exact absent held

theorem fails_mergeUnder {links : List Link} {present later : Value} :
    Fails (mergeUnder links present later) ↔ Refuses links present later := by
  unfold mergeUnder Refuses
  by_cases endless : Endless links present later
  · obtain ⟨entries, isMap⟩ := Value.exists_map_of_isMap endless.isMap
    rw [if_pos (leadOnForever_iff.mpr endless), isMap]
    exact iff_of_true (fails_error _) endless
  · rw [if_neg (mt leadOnForever_iff.mp endless)]
    -- otherwise the shape of what is there decides
    cases present.bare with
    | map entries => simp [endless]
    | list items =>
      simp only [fails_map, fails_foldlM_iff, fails_writeItem]
    | set items =>
      by_cases nothing : later.entries = []
      · simp [nothing]
      · simp [nothing]
    | _ => simp

/-- Only a mapping that meets a value refusing it cannot be put into its section. -/
theorem fails_putSection {links : List Link} {sections : Entries} {key : Scalar} {value : Value} :
    Fails (putSection links sections key value) ↔ value.isMap = true ∧ ∃ present,
      Entries.get? sections (sectionKey key) = some present ∧ Refuses links present value := by
  simp only [putSection]
  split
  next present found isMap =>
    simp [found, isMap, fails_mergeUnder]
  next alone =>
    simp only [not_fails_ok, false_iff, not_and, not_exists]
    intro isMap present found
    exact absurd isMap (alone present found)

/-! ### Spellings -/

/-- The keys under which a file may hold the options of a check. -/
def Spells (kind : CheckKind) (key : Scalar) : Prop :=
  key = .text kind.section ∨ key = .text kind.id

theorem eq_text_of_same {key : Scalar} {name : String} (same : key.same (.text name) = true) :
    key = .text name := by
  rw [Scalar.same_iff] at same
  cases key with
  | text written => exact same
  | float value =>
    simp only [Scalar.key] at same
    split at same <;> cases same
  | _ => cases same

theorem same_section_iff {kind : CheckKind} {key : Scalar} :
    (sectionKey key).same (.text kind.section) = true ↔ Spells kind key := by
  constructor
  · intro same
    have isSection := eq_text_of_same same
    cases found : CheckKind.all.find? fun kind => Scalar.text kind.id = key with
    | none =>
      simp only [sectionKey, found] at isSection
      exact .inl isSection
    | some other =>
      simp only [sectionKey, found, Scalar.text.injEq] at isSection
      -- no two checks share a section
      have single : ∀ first second : CheckKind,
          first.section = second.section → first = second := by
        intro first second
        cases first <;> cases second <;> decide
      obtain rfl := single _ _ isSection
      have isId := List.find?_some found
      exact .inr (of_decide_eq_true isId).symm
  · rintro (rfl | rfl)
    · rw [sectionKey_section, Scalar.same_refl]
    · rw [sectionKey_id, Scalar.same_refl]

theorem sectionKey_of_spells {kind : CheckKind} {key : Scalar} (spells : Spells kind key) :
    sectionKey key = .text kind.section :=
  eq_text_of_same (same_section_iff.mpr spells)

/-- Different keys stand for one section only if they are spellings of it. -/
theorem exists_spells {first second : Scalar} (apart : first.same second = false)
    (shared : (sectionKey first).same (sectionKey second) = true) :
    ∃ kind, Spells kind first ∧ Spells kind second := by
  have moved (key : Scalar) : (∃ kind, Spells kind key) ∨ sectionKey key = key := by
    cases found : CheckKind.all.find? fun kind => Scalar.text kind.id = key with
    | none => exact .inr (by simp only [sectionKey, found])
    | some kind =>
      have isId := List.find?_some found
      exact .inl ⟨kind, .inr (of_decide_eq_true isId).symm⟩
  rcases moved first with ⟨kind, spells⟩ | stays
  · rw [sectionKey_of_spells spells, Scalar.same_comm] at shared
    exact ⟨kind, spells, same_section_iff.mp shared⟩
  · rcases moved second with ⟨kind, spells⟩ | remains
    · rw [sectionKey_of_spells spells] at shared
      exact ⟨kind, same_section_iff.mp shared, spells⟩
    · rw [stays, remains, apart] at shared
      cases shared

/-- A section has two spellings, so a third key that differs from both stands for another one. -/
theorem not_spells_of_apart {kind : CheckKind} {first second third : Scalar}
    (one : Spells kind first) (two : Spells kind second) (apart : first.same second = false)
    (fromFirst : third.same first = false) (fromSecond : third.same second = false) :
    ¬Spells kind third := by
  intro three
  rcases one with rfl | rfl <;> rcases two with rfl | rfl <;> rcases three with rfl | rfl <;>
    simp_all [Scalar.same_refl]

/-! ### Clashes -/

/-- A section is set under both of its spellings, the second time by a mapping that what it was set
to before refuses. -/
def Clash (entries : Entries) : Prop :=
  ∃ kind before first present between second later after,
    entries = (before ++ (first, present) :: between) ++ (second, later) :: after ∧
      Spells kind first ∧ Spells kind second ∧ later.isMap = true ∧
      Refuses (linksOfEntries entries).eraseDups present later

/-- What a section holds before its second spelling is what it was set to under the first. -/
theorem get?_section_before {links : List Link} {before between : Entries} {first : Scalar}
    {present : Value} {kind : CheckKind} {sections : Entries} (spells : Spells kind first)
    (alone : ∀ entry ∈ before ++ between, ¬Spells kind entry.1)
    (put : putSections links [] (before ++ (first, present) :: between) = .ok sections) :
    Entries.get? sections (.text kind.section) = some present := by
  refine getText?_putSections put kind spells fun entry member => ?_
  rw [← Bool.not_eq_true, same_section_iff]
  exact alone entry member

/-- Entries around the first of two spellings of a section, in front of the second, are of other
sections. -/
theorem not_spells_around {kind : CheckKind} {before between after : Entries}
    {first second : Scalar} {present later : Value} (one : Spells kind first)
    (two : Spells kind second)
    (distinct : Entries.Distinct
      ((before ++ (first, present) :: between) ++ (second, later) :: after)) :
    ∀ entry ∈ before ++ between, ¬Spells kind entry.1 := by
  intro entry member
  obtain ⟨front, -, across⟩ := List.pairwise_append.mp distinct
  obtain ⟨-, behind, around⟩ := List.pairwise_append.mp front
  have apart : first.same second = false :=
    across (first, present) (by simp) (second, later) List.mem_cons_self
  have fromFirst : entry.1.same first = false := by
    rcases List.mem_append.mp member with above | below
    · exact around entry above (first, present) List.mem_cons_self
    · rw [Scalar.same_comm]
      exact (List.pairwise_cons.mp behind).1 entry below
  have fromSecond : entry.1.same second = false := by
    refine across entry ?_ (second, later) List.mem_cons_self
    rcases List.mem_append.mp member with above | below
    · exact List.mem_append_left _ above
    · exact List.mem_append_right _ (List.mem_cons_of_mem _ below)
  exact not_spells_of_apart one two apart fromFirst fromSecond

theorem fails_of_clash {entries : Entries} (distinct : Entries.Distinct entries)
    (clash : Clash entries) : Fails (normalizeSections entries) := by
  obtain ⟨kind, before, first, present, between, second, later, after, split, one, two, isMap,
    refuses⟩ := clash
  unfold normalizeSections
  generalize (linksOfEntries entries).eraseDups = links at refuses ⊢
  subst split
  -- the fold reaches the second spelling with the value of the first one in the section
  refine fails_foldlM_append fun sections put => fails_putSection.mpr ⟨isMap, present, ?_, refuses⟩
  rw [sectionKey_of_spells two]
  exact get?_section_before one (not_spells_around one two distinct) put

theorem clash_of_fails {entries : Entries} (distinct : Entries.Distinct entries)
    (failed : Fails (normalizeSections entries)) : Clash entries := by
  unfold normalizeSections at failed
  unfold Clash
  generalize (linksOfEntries entries).eraseDups = links at failed ⊢
  obtain ⟨front, ⟨second, later⟩, after, sections, rfl, put, stuck⟩ :=
    exists_of_fails_foldlM failed
  obtain ⟨isMap, present, held, refuses⟩ := fails_putSection.mp stuck
  -- some entry in front has put a value into the section
  obtain ⟨⟨first, value⟩, member, shared⟩ : ∃ entry ∈ front,
      (sectionKey entry.1).same (sectionKey second) = true := by
    apply Classical.byContradiction
    intro none
    have untouched := get?_putSections_other front put fun entry member =>
      Bool.eq_false_iff.mpr fun same => none ⟨entry, member, same⟩
    rw [held] at untouched
    cases untouched
  have apart : first.same second = false :=
    (List.pairwise_append.mp distinct).2.2 _ member _ List.mem_cons_self
  obtain ⟨kind, one, two⟩ := exists_spells apart shared
  obtain ⟨before, between, rfl⟩ := List.append_of_mem member
  have same := get?_section_before one (not_spells_around one two distinct) put
  rw [sectionKey_of_spells two, same] at held
  obtain rfl := Option.some.inj held
  exact ⟨kind, before, first, value, between, second, later, after, rfl, one, two, isMap, refuses⟩

/-- Sections cannot be brought together exactly if two of their spellings clash. -/
theorem fails_normalizeSections_iff {entries : Entries} (distinct : Entries.Distinct entries) :
    Fails (normalizeSections entries) ↔ Clash entries :=
  ⟨clash_of_fails distinct, fails_of_clash distinct⟩

end SpecLint.Settings
