import SpecLint.Spec.Comparison
import SpecLint.Spec.Locator

/-!
# What the memory of spec files recalls

The memory fills up while a source file is analysed, so what a lookup returns might depend on the
lookups before it. It does not: as long as the memory holds nothing but what the disk and the
grammar say, every lookup answers from these alone and leaves the memory in that state.

## Main results

Every lookup has an `answers_` lemma that gives its answer as a plain value. For coverage and the
comparison with scenarios it is a condition on the texts and trees of the spec files.
-/
namespace SpecLint.Spec

open SpecLint.Code SpecLint.Report

namespace Project

/-- The text of a spec file when it is first read. -/
def specText (project : Project) (path : Path) : String := (Cache.firstRead project path).1

/-- What the grammar makes of that text. -/
def specParsed (project : Project) (path : Path) : Parsed :=
  Parsed.ofText project.grammar path (project.specText path)

/-- Whether some of the spec files documents a key. -/
def documents (project : Project) (paths : List Path) (key : HeaderKey) : Bool :=
  paths.any fun path => (Phrase.first? key (project.specText path).toList).isSome

/-- Whether a spec file has an example and describes a unit. -/
def exemplifies (project : Project) (unit : String) (path : Path) : Bool :=
  hasExample (project.specText path).toList &&
    (declaresUnit (project.specParsed path).root unit ||
      declaresUnit (project.specParsed path).root (CodeUnit.shortName unit))

/-- The spec files that a search with an empty memory finds for a unit. -/
def located (project : Project) (source : Path) (unit : Option String) :
    Except WildcardFault Candidates :=
  ((locate project source unit).run Cache.empty).1

end Project

namespace Cache

variable {α β : Type} {project : Project}

/-- The memory holds nothing but what the disk and the grammar say. -/
structure Recalls (project : Project) (cache : Cache) : Prop where
  existing : ∀ path found, cache.existing.lookup path = some found →
    found = project.disk.isFile path
  texts : ∀ path text, cache.texts.lookup path = some text → text = project.specText path
  trees : ∀ path parsed, cache.trees.lookup path = some parsed → parsed = project.specParsed path

theorem recalls_empty (project : Project) : Recalls project .empty := by
  constructor <;> intro _ _ known <;> simp [empty] at known

theorem Recalls.report {cache : Cache} (recalls : Recalls project cache) (events : List Event) :
    Recalls project (cache.report events) :=
  ⟨recalls.existing, recalls.texts, recalls.trees⟩

/-- What one more entry may say. -/
theorem eq_of_lookup_cons {value : Path → α} {entries : List (Path × α)} {path : Path}
    (known : ∀ path seen, entries.lookup path = some seen → seen = value path) :
    ∀ other seen, ((path, value path) :: entries).lookup other = some seen →
      seen = value other := by
  intro other seen found
  rw [List.lookup_cons] at found
  cases same : other == path with
  | true =>
    rw [same, Option.some.injEq] at found
    rw [← found, beq_iff_eq.mp same]
  | false =>
    rw [same] at found
    exact known other seen found

/-! ### Lookups with a fixed answer -/

/-- A lookup that gives the same answer whatever else has been looked up. -/
def Answers (project : Project) (act : StateM Cache α) (answer : α) : Prop :=
  ∀ cache, Recalls project cache → (act cache).1 = answer ∧ Recalls project (act cache).2

theorem answers_pure (answer : α) : Answers project (pure answer) answer :=
  fun _ recalls => ⟨rfl, recalls⟩

theorem answers_report (events : List Event) :
    Answers project (modify (Cache.report events)) ⟨⟩ :=
  fun _ recalls => ⟨rfl, recalls.report events⟩

theorem Answers.bind {act : StateM Cache α} {next : α → StateM Cache β} {answer : α} {final : β}
    (first : Answers project act answer) (second : Answers project (next answer) final) :
    Answers project (act >>= next) final := by
  intro cache recalls
  obtain ⟨said, kept⟩ := first cache recalls
  -- what comes next starts from a memory that is still right
  have later := second (act cache).2 kept
  rw [← said] at later
  exact later

theorem Answers.map {act : StateM Cache α} {answer : α} (first : Answers project act answer)
    (change : α → β) : Answers project (change <$> act) (change answer) := by
  intro cache recalls
  obtain ⟨said, kept⟩ := first cache recalls
  exact ⟨congrArg change said, kept⟩

/-- An answer is the one that the empty memory gives. -/
theorem Answers.eq_empty {act : StateM Cache α} {answer : α} (first : Answers project act answer) :
    (act Cache.empty).1 = answer :=
  (first Cache.empty (recalls_empty project)).1

/-- A computation that may fail goes on from its first answer. -/
theorem Answers.bindExcept {ε : Type} {act : ExceptT ε (StateM Cache) α}
    {next : α → ExceptT ε (StateM Cache) β} {answer : α} {final : Except ε β}
    (first : Answers project act.run (.ok answer))
    (second : Answers project (next answer).run final) :
    Answers project (act >>= next).run final :=
  @Answers.bind _ _ project act.run (ExceptT.bindCont next) _ _ first second

theorem Answers.bindExcept_error {ε : Type} {act : ExceptT ε (StateM Cache) α}
    {next : α → ExceptT ε (StateM Cache) β} {fault : ε}
    (first : Answers project act.run (.error fault)) :
    Answers project (act >>= next).run (.error fault) :=
  @Answers.bind _ _ project act.run (ExceptT.bindCont next) _ _ first (answers_pure _)

theorem answers_mapM {items : List α} {act : α → StateM Cache β} {answer : α → β}
    (each : ∀ item ∈ items, Answers project (act item) (answer item)) :
    Answers project (items.mapM act) (items.map answer) := by
  induction items with
  | nil => exact answers_pure []
  | cons item items ih =>
    rw [List.mapM_cons]
    have first := each item (by simp)
    have rest := ih fun item member => each item (by simp [member])
    exact first.bind (rest.bind (answers_pure _))

theorem answers_foldlM {items : List α} {act : β → α → StateM Cache β} {answer : β → α → β}
    (each : ∀ state item, Answers project (act state item) (answer state item)) (start : β) :
    Answers project (items.foldlM act start) (items.foldl answer start) := by
  induction items generalizing start with
  | nil => exact answers_pure start
  | cons item items ih =>
    rw [List.foldlM_cons]
    exact (each start item).bind (ih (answer start item))

/-! ### Single files -/

theorem answers_isFile (path : Path) :
    Answers project (isFile project path) (project.disk.isFile path) := by
  intro cache recalls
  cases known : cache.existing.lookup path with
  | some found =>
    simp only [isFile, known]
    exact ⟨recalls.existing path found known, recalls⟩
  | none =>
    simp only [isFile, known]
    exact ⟨trivial, eq_of_lookup_cons recalls.existing, recalls.texts, recalls.trees⟩

theorem answers_text (path : Path) :
    Answers project (text project path) (project.specText path) := by
  intro cache recalls
  cases known : cache.texts.lookup path with
  | some found =>
    simp only [text, known]
    exact ⟨recalls.texts path found known, recalls⟩
  | none =>
    simp only [text, known]
    exact ⟨rfl, recalls.existing, eq_of_lookup_cons recalls.texts, recalls.trees⟩

theorem answers_parsed (path : Path) :
    Answers project (parsed project path) (project.specParsed path) := by
  intro cache recalls
  cases known : cache.trees.lookup path with
  | some found =>
    simp only [parsed, known]
    exact ⟨recalls.trees path found known, recalls⟩
  | none =>
    obtain ⟨said, kept⟩ := answers_text path cache recalls
    simp only [parsed, known]
    generalize text project path cache = read at said kept ⊢
    obtain ⟨found, later⟩ := read
    obtain rfl : found = project.specText path := said
    exact ⟨rfl, kept.existing, kept.texts, eq_of_lookup_cons kept.trees⟩

end Cache

/-! ### Coverage and scenarios -/

open Cache

variable {project : Project}

theorem answers_readAll (paths : List Path) :
    Answers project (readAll project paths) (paths.map fun path => (path, project.specText path)) :=
  answers_mapM fun path _ => (answers_text path).bind (answers_pure _)

theorem documenting?_isSome (paths : List Path) (key : HeaderKey) :
    (documenting? key (paths.map fun path => (path, project.specText path))).isSome =
      project.documents paths key := by
  rw [Bool.eq_iff_iff]
  simp only [documenting?, Project.documents, List.findSome?_isSome_iff, List.any_eq_true,
    List.mem_map, Option.isSome_map]
  constructor
  · rintro ⟨_, ⟨path, member, rfl⟩, holds⟩
    exact ⟨path, member, holds⟩
  · rintro ⟨path, member, holds⟩
    exact ⟨_, ⟨path, member, rfl⟩, holds⟩

/-- A routine is covered exactly if its key or one of its aliases is documented. -/
theorem answers_covers (paths : List Path) (key : HeaderKey) (table : AliasTable) :
    Answers project (covers project paths key table)
      ((key :: table.aliases key.toString).any (project.documents paths)) := by
  refine (answers_readAll paths).bind ?_
  have own : (documenting? key (paths.map fun path => (path, project.specText path))).isSome =
      project.documents paths key := documenting?_isSome paths key
  rw [List.any_cons, ← own]
  cases documenting? key (paths.map fun path => (path, project.specText path)) with
  | some found => exact (answers_report _).bind (answers_pure true)
  | none =>
    refine (answers_report _).bind ?_
    have others : (table.aliases key.toString).any (project.documents paths) =
        ((table.aliases key.toString).findSome? fun other =>
          (documenting? other (paths.map fun path => (path, project.specText path))).map
            fun found => (other, found.1)).isSome := by
      simp only [isSome_findSome?_documenting, documenting?_isSome]
    simp only [Option.isSome_none, Bool.false_or, others]
    split
    next found => rw [found]; exact (answers_report _).bind (answers_pure true)
    next found => rw [found]; exact answers_pure false

theorem answers_totalOver (paths : List Path) (count : Node → Option Nat) :
    Answers project (totalOver project paths count)
      (sumCounts (paths.map fun path => count (project.specParsed path).root)) := by
  refine Answers.bind (answers_mapM fun path _ => ?_) (answers_pure _)
  exact (answers_parsed path).bind (answers_pure _)

/-- The titles of the headers of a routine. -/
def headerTitles (key : HeaderKey) (table : AliasTable) : List String :=
  (key :: table.aliases key.toString).map HeaderKey.toString

theorem answers_contextTotal (paths : List Path) (key : HeaderKey) (table : AliasTable) :
    Answers project (contextTotal project paths key table)
      (sumCounts (paths.map fun path =>
        countContexts (project.specParsed path).root (headerTitles key table))) :=
  (answers_report _).bind (answers_totalOver paths _)

/-- The scenarios under the headers of a routine, or of a unit that needs no other header. -/
def scenariosIn (key : HeaderKey) (table : AliasTable) (relaxed : Option String) (tree : Node) :
    Option Nat :=
  match relaxed with
  | some unit => countUnitContexts tree unit
  | none => countContexts tree (headerTitles key table)

theorem answers_compare (branches : Nat) (paths : List Path) (key : HeaderKey) (table : AliasTable)
    (relaxed : Option String) :
    Answers project (compare project branches paths key table relaxed)
      ((sumCounts (paths.map fun path =>
        scenariosIn key table relaxed (project.specParsed path).root)).map (⟨branches, ·⟩)) := by
  cases relaxed with
  | none =>
    -- without scenarios there is a report and no comparison
    refine (answers_contextTotal paths key table).bind ?_
    simp only [scenariosIn]
    split
    next total => rw [total]; exact (answers_report _).bind (answers_pure none)
    next contexts total => rw [total]; exact answers_pure _
  | some unit =>
    refine (answers_totalOver paths fun tree => countUnitContexts tree unit).bind ?_
    simp only [scenariosIn]
    split
    next total => rw [total]; exact (answers_report _).bind (answers_pure none)
    next contexts total => rw [total]; exact answers_pure _

theorem answers_hasExamplesForUnit (unit : String) (paths : List Path) :
    Answers project (hasExamplesForUnit project unit paths)
      (paths.any (project.exemplifies unit)) := by
  induction paths with
  | nil => exact answers_pure false
  | cons path paths ih =>
    have here : Answers project (hasExamplesFor project unit path)
        (project.exemplifies unit path) := by
      refine (answers_text path).bind ?_
      unfold Project.exemplifies
      cases hasExample (project.specText path).toList with
      | true => exact (answers_parsed path).bind (answers_pure _)
      | false => exact answers_pure false
    rw [List.any_cons]
    refine here.bind ?_
    cases project.exemplifies unit path with
    | true => exact answers_pure true
    | false => exact ih

/-! ### Locating spec files -/

/-- Take a wildcard file in if it is a file that describes the unit. -/
def Project.takeIn (project : Project) (unit : String) (kept : List Path) (path : Path) :
    List Path :=
  if kept.contains path then kept
  else if project.disk.isFile path && declaresUnit (project.specParsed path).root unit then
    kept ++ [path]
  else kept

/-- The expected spec file, if it is a file. -/
def Project.ownSpecs (project : Project) (base : Path) : List Path :=
  if project.disk.isFile base then [base] else []

theorem answers_considerWildcard (unit : String) (kept : List Path) (path : Path) :
    Answers project (considerWildcard project unit kept path) (project.takeIn unit kept path) := by
  unfold considerWildcard Project.takeIn
  split
  · exact answers_pure kept
  · refine (answers_isFile path).bind ?_
    cases project.disk.isFile path with
    | false => exact answers_pure kept
    | true =>
      refine (answers_parsed path).bind ?_
      cases declaresUnit (project.specParsed path).root unit with
      | true => exact answers_pure _
      | false => exact (answers_report _).bind (answers_pure kept)

theorem answers_own (base : Path) :
    Answers project (liftM (isFile project base) : ExceptT WildcardFault (StateM Cache) Bool).run
      (.ok (project.disk.isFile base)) :=
  (answers_isFile base).map Except.ok

/-- The files of a named unit: the expected spec, and the wildcard files that are taken in. -/
theorem answers_locate_named (project : Project) {source base : Path} {unit : String}
    (expected : Layout.expectedSpec? source = some base) (named : unit ≠ "") :
    Answers project (locate project source (some unit)).run
      ((wildcardPaths project.disk base).map fun listed =>
        ⟨some base, listed.foldl (project.takeIn unit) (project.ownSpecs base)⟩) := by
  unfold locate
  rw [expected]
  refine (answers_own base).bindExcept ?_
  simp only [if_neg named]
  cases wildcardPaths project.disk base with
  | error fault => exact Answers.bindExcept_error (answers_pure _)
  | ok further =>
    have listed : Answers project
        (liftM (.ok further : Except WildcardFault (List Path)) :
          ExceptT WildcardFault (StateM Cache) (List Path)).run (.ok further) :=
      answers_pure _
    have fold : Answers project
        (further.foldlM (considerWildcard project unit) (project.ownSpecs base))
        (further.foldl (project.takeIn unit) (project.ownSpecs base)) :=
      answers_foldlM (answers_considerWildcard unit) _
    exact listed.bindExcept (Answers.bindExcept (fold.map Except.ok) (answers_pure _))

theorem answers_locate (source : Path) (unit : Option String) :
    Answers project (locate project source unit).run (project.located source unit) := by
  have fixed : ∃ answer, Answers project (locate project source unit).run answer := by
    cases expected : Layout.expectedSpec? source with
    | none =>
      unfold locate
      rw [expected]
      exact ⟨_, answers_pure _⟩
    | some base =>
      -- without a name there is nothing to search for
      have alone : ∃ answer, Answers project (locate project source none).run answer := by
        unfold locate
        rw [expected]
        exact ⟨_, (answers_own base).bindExcept (answers_pure _)⟩
      cases unit with
      | none => exact alone
      | some unit =>
        by_cases unnamed : unit = ""
        · subst unnamed
          unfold locate
          rw [expected]
          exact ⟨_, (answers_own base).bindExcept (answers_pure _)⟩
        · exact ⟨_, answers_locate_named project expected unnamed⟩
  obtain ⟨answer, answers⟩ := fixed
  rw [Project.located, answers.eq_empty]
  exact answers

end SpecLint.Spec
