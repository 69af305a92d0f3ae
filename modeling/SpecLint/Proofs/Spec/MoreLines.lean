import SpecLint.Proofs.Spec.PhraseExtent
import SpecLint.Proofs.Spec.Question

/-!
# More lines, more files, more aliases

A phrase looks at the character before it and at most at the one behind it. A line break is no word
character and goes on with no name, so a phrase that stands in a text still stands there when whole
lines come before or behind the text. What a routine is covered by therefore stays when spec files
get longer, when further files are looked at, and when the routine gets further aliases.

## Main result

`covers_of_more`
-/
namespace SpecLint.Spec

open SpecLint.Text

/-- A text in which whole lines stand before another one, behind it, or both. -/
def LinesAdded (text more : List Char) : Prop :=
  ∃ lead trail, more = lead ++ (text ++ trail) ∧ (lead = [] ∨ ∃ lines, lead = lines ++ ['\n']) ∧
    (trail = [] ∨ ∃ lines, trail = '\n' :: lines)

/-! ### One phrase -/

/-- A phrase does not notice lines that end before it. -/
theorem isBoundary_after_lines {lead before : List Char} {c : Option Char}
    (lines : lead = [] ∨ ∃ lines, lead = lines ++ ['\n'])
    (boundary : isBoundary before.getLast? c = true) :
    isBoundary (lead ++ before).getLast? c = true := by
  by_cases first : before = []
  · subst first
    rcases lines with rfl | ⟨lines, rfl⟩
    · exact boundary
    · -- a line break is as little a word character as the start of the text
      have noWord : isWord '\n' = false := by decide
      simpa [isBoundary, noWord] using boundary
  · rwa [List.getLast?_append_of_ne_nil _ first]

namespace Phrase

variable {phrase : Phrase} {key : HeaderKey} {text more : List Char}

/-- A phrase that may end before a text may end there with further lines behind. -/
theorem EndsBefore.append_lines {after trail : List Char} (ends : phrase.EndsBefore after)
    (lines : trail = [] ∨ ∃ lines, trail = '\n' :: lines) : phrase.EndsBefore (after ++ trail) := by
  intro isExample
  have here := ends isExample
  cases after with
  | cons c rest => exact here
  | nil =>
    rcases lines with rfl | ⟨lines, rfl⟩
    · rfl
    · have noName : continuesName '\n' = false := by decide
      simp [noName]

theorem accepts_of_linesAdded (added : LinesAdded text more)
    (accepted : phrase.accepts key text = true) : phrase.accepts key more = true := by
  obtain ⟨lead, trail, rfl, above, below⟩ := added
  obtain ⟨before, consumed, after, rfl, spelled, ends, boundary⟩ := accepts_iff_reads.mp accepted
  refine accepts_iff_reads.mpr ⟨lead ++ before, consumed, after ++ trail, ?_, spelled, ?_, ?_⟩
  · simp only [List.append_assoc]
  · exact ends.append_lines below
  · exact isBoundary_after_lines above boundary

end Phrase

/-! ### Coverage -/

namespace Cache

/-- The text that a lookup gives: the remembered one, or else the one on the disk. -/
def seenText (project : Project) (cache : Cache) (path : Path) : String :=
  (text project path cache).1

/-- Looking one file up changes no answer about another one. -/
theorem seenText_text (project : Project) (cache : Cache) (path other : Path) :
    seenText project (text project path cache).2 other = seenText project cache other := by
  by_cases same : other = path
  · subst same
    exact text_again project project other cache
  · exact (alike_text project (sameAt_text_other project same cache)).1

end Cache

theorem readAll_fst (project : Project) (paths : List Path) (cache : Cache) :
    (readAll project paths cache).1 =
      paths.map fun path => (path, cache.seenText project path) := by
  induction paths generalizing cache with
  | nil => rfl
  | cons path paths ih =>
    have later := ih (Cache.text project path cache).2
    simp only [Cache.seenText_text] at later
    rw [List.map_cons, ← later]
    simp only [readAll, List.mapM_cons]
    rfl

theorem documenting?_isSome_iff {key : HeaderKey} {texts : List (Path × String)} :
    (documenting? key texts).isSome = true ↔
      ∃ entry ∈ texts, ∃ phrase : Phrase, phrase.accepts key entry.2.toList = true := by
  simp only [documenting?, List.findSome?_isSome_iff, Option.isSome_map, Phrase.first?_isSome]

/-- The key is tried first, and the aliases only if it is not found. -/
theorem covers_fst (project : Project) (paths : List Path) (key : HeaderKey) (table : AliasTable)
    (cache : Cache) :
    (covers project paths key table cache).1 = (key :: table.aliases key.toString).any fun own =>
      (documenting? own (readAll project paths cache).1).isSome := by
  simp only [covers, bind, StateT.bind, List.any_cons]
  generalize readAll project paths cache = run
  obtain ⟨texts, later⟩ := run
  rw [← isSome_findSome?_documenting]
  dsimp only [AliasTable.forKey]
  cases documenting? key texts with
  | some found => rfl
  | none =>
    dsimp only
    cases (table.aliases key.toString).findSome? fun other =>
        (documenting? other texts).map fun found => (other, found.1) with
    | some found => rfl
    | none => rfl

/-- A routine is covered if a phrase for its key or for one of its aliases stands in one of the
texts that are looked up. -/
theorem covers_iff_accepts {project : Project} {paths : List Path} {key : HeaderKey}
    {table : AliasTable} {cache : Cache} :
    (covers project paths key table cache).1 = true ↔
      ∃ own ∈ key :: table.aliases key.toString, ∃ path ∈ paths, ∃ phrase : Phrase,
        phrase.accepts own (cache.seenText project path).toList = true := by
  have documented (own : HeaderKey) : (documenting? own (readAll project paths cache).1).isSome =
      true ↔ ∃ path ∈ paths, ∃ phrase : Phrase,
        phrase.accepts own (cache.seenText project path).toList = true := by
    rw [readAll_fst, documenting?_isSome_iff]
    simp only [List.mem_map, exists_exists_and_eq_and]
  rw [covers_fst, List.any_eq_true]
  simp only [documented]

variable {project larger : Project} {paths more : List Path} {key : HeaderKey}

/-- A routine that is covered stays covered if the spec files come in another order, if there are
more of them, if the routine has more aliases, and if files get whole lines before or behind what
they hold; also if all of this happens at once. -/
theorem covers_of_more {first second : AliasTable} {cache later : Cache}
    (listed : ∀ path ∈ paths, path ∈ more)
    (aliased : ∀ other ∈ first.aliases key.toString, other ∈ second.aliases key.toString)
    (added : ∀ path ∈ paths, LinesAdded (cache.seenText project path).toList
      (later.seenText larger path).toList)
    (covered : (covers project paths key first cache).1 = true) :
    (covers larger more key second later).1 = true := by
  obtain ⟨own, isOwn, path, member, phrase, accepted⟩ := covers_iff_accepts.mp covered
  have stillOwn : own ∈ key :: second.aliases key.toString := by
    rcases List.mem_cons.mp isOwn with rfl | isAlias
    · exact List.mem_cons_self
    · exact List.mem_cons_of_mem _ (aliased own isAlias)
  have stillAccepted := Phrase.accepts_of_linesAdded (added path member) accepted
  exact covers_iff_accepts.mpr ⟨own, stillOwn, path, listed path member, phrase, stillAccepted⟩

/-- A project with one spec file. -/
def oneSpec (text : String) : Project where
  disk := ⟨[], [(["spec"], .directory), (["spec", "run_spec.rb"], .file text.toUTF8)]⟩
  grammar := fun _ => Code.Concrete.construct "program" 0 0 none []

def runSpecPath : Path := ⟨"", ["spec", "run_spec.rb"]⟩

def walkSpecPath : Path := ⟨"", ["spec", "walk_spec.rb"]⟩

def runKey : HeaderKey := ⟨.ofInstance, "run".toList⟩

/-- The phrase fills the text: there is nothing before it and nothing behind it. -/
def runPhrase : String := "it 'tests run"

/-- One line more before the phrase, and one behind it. -/
def runLines : String := "walk\n" ++ runPhrase ++ "\n_again"

/-- A phrase that filled its text is still found between two lines, with one more file and one more
alias. -/
theorem covers_of_more_run :
    (∀ path ∈ [runSpecPath], path ∈ [walkSpecPath, runSpecPath]) ∧
      (∀ other ∈ AliasTable.empty.aliases runKey.toString,
        other ∈ (AliasTable.mk [("#run", ["#walk"])]).aliases runKey.toString) ∧
      (∀ path ∈ [runSpecPath],
        LinesAdded (Cache.empty.seenText (oneSpec runPhrase) path).toList
          (Cache.empty.seenText (oneSpec runLines) path).toList) ∧
      (covers (oneSpec runPhrase) [runSpecPath] runKey .empty .empty).1 = true ∧
      (covers (oneSpec runLines) [walkSpecPath, runSpecPath] runKey
        (AliasTable.mk [("#run", ["#walk"])]) .empty).1 = true := by
  have listed : ∀ path ∈ [runSpecPath], path ∈ [walkSpecPath, runSpecPath] := by simp
  have aliased : ∀ other ∈ AliasTable.empty.aliases runKey.toString,
      other ∈ (AliasTable.mk [("#run", ["#walk"])]).aliases runKey.toString := by
    simp [AliasTable.aliases_empty]
  have added : ∀ path ∈ [runSpecPath],
      LinesAdded (Cache.empty.seenText (oneSpec runPhrase) path).toList
        (Cache.empty.seenText (oneSpec runLines) path).toList := by
    intro path member
    rw [List.mem_singleton.mp member]
    have split : (Cache.empty.seenText (oneSpec runLines) runSpecPath).toList =
        "walk\n".toList ++
          ((Cache.empty.seenText (oneSpec runPhrase) runSpecPath).toList ++ "\n_again".toList) := by
      decide +kernel
    exact ⟨_, _, split, .inr ⟨"walk".toList, by decide +kernel⟩,
      .inr ⟨"_again".toList, by decide +kernel⟩⟩
  have covered : (covers (oneSpec runPhrase) [runSpecPath] runKey .empty .empty).1 = true := by
    decide +kernel
  exact ⟨listed, aliased, added, covered, covers_of_more listed aliased added covered⟩

end SpecLint.Spec
