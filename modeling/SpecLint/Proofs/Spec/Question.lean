import SpecLint.Proofs.Spec.Recall

/-!
# Questions to the memory of spec files

Whether a path is a file is settled by one look at the disk, and what it holds by another one, be
the question for the text itself or for the tree. The memory takes a look when the first question
needs it. All questions that share the look are answered by it, however the disk changes meanwhile,
and no question has to do with another path.

## Main results

* `ask_of_unsettled`, `ask_of_settled`: a question is answered by the look that settles it, which is
  taken now or was taken before;
* `Settled.ask`, `Unsettled.ask`: what other questions do to looks;
* `alike_ask`: nothing that is known of other paths matters;
* `failures_ask`: only the look at a text reports a file that cannot be read.
-/
namespace SpecLint.Spec

open SpecLint.Code SpecLint.Report

/-- What is asked of the memory. -/
inductive Question where
  | isFile (path : Path)
  | text (path : Path)
  | parsed (path : Path)

inductive Answer where
  | isFile (found : Bool)
  | text (text : String)
  | parsed (parsed : Parsed)

namespace Question

def path : Question → Path
  | isFile path | text path | parsed path => path

/-- Whether the answer is made from the text of the file. -/
def needsText : Question → Bool
  | isFile _ => false
  | text _ | parsed _ => true

/-- Whether two questions are settled by one look at the disk. -/
def sharesLook (question other : Question) : Bool :=
  question.path == other.path && question.needsText == other.needsText

/-- The answer of the memory, which looks at the disk if it has to. -/
def ask (project : Project) : Question → StateM Cache Answer
  | isFile path => Answer.isFile <$> Cache.isFile project path
  | text path => Answer.text <$> Cache.text project path
  | parsed path => Answer.parsed <$> Cache.parsed project path

/-- The answer of the disk as it is. -/
def answer (project : Project) : Question → Answer
  | isFile path => .isFile (project.disk.isFile path)
  | text path => .text (project.specText path)
  | parsed path => .parsed (project.specParsed path)

theorem ask_isFile (project : Project) (path : Path) (cache : Cache) :
    (isFile path).ask project cache =
      (.isFile (Cache.isFile project path cache).1, (Cache.isFile project path cache).2) := rfl

theorem ask_text (project : Project) (path : Path) (cache : Cache) :
    (text path).ask project cache =
      (.text (Cache.text project path cache).1, (Cache.text project path cache).2) := rfl

theorem ask_parsed (project : Project) (path : Path) (cache : Cache) :
    (parsed path).ask project cache =
      (.parsed (Cache.parsed project path cache).1, (Cache.parsed project path cache).2) := rfl

theorem sharesLook_iff (question other : Question) :
    question.sharesLook other = true ↔
      question.path = other.path ∧ question.needsText = other.needsText := by
  simp [sharesLook]

/-- Of two questions about one path that share no look, only one needs the text. -/
theorem needsText_ne {question other : Question} (apart : question.sharesLook other = false)
    (same : question.path = other.path) : question.needsText ≠ other.needsText := by
  intro needs
  rw [(sharesLook_iff ..).mpr ⟨same, needs⟩] at apart
  cases apart

end Question

/-- What a question adds to the events. -/
def newEvents (project : Project) (question : Question) (cache : Cache) : List Event :=
  (question.ask project cache).2.events.drop cache.events.length

/-- A spec file that could not be read was reported. -/
def isReadFailure : Event → Bool
  | .readFailed .. => true
  | _ => false

namespace Cache

variable {grammar : Grammar} {disk : Disk} {cache : Cache}

/-! ### What is known of one path -/

/-- Two memories know the same of a path. -/
structure SameAt (path : Path) (cache other : Cache) : Prop where
  existing : cache.existing.lookup path = other.existing.lookup path
  texts : cache.texts.lookup path = other.texts.lookup path
  trees : cache.trees.lookup path = other.trees.lookup path

theorem SameAt.trans {path : Path} {first second third : Cache} (left : SameAt path first second)
    (right : SameAt path second third) : SameAt path first third :=
  ⟨left.existing.trans right.existing, left.texts.trans right.texts, left.trees.trans right.trees⟩

/-- A remembered tree was made from the remembered text. -/
def Coherent (grammar : Grammar) (path : Path) (cache : Cache) : Prop :=
  ∀ tree, cache.trees.lookup path = some tree →
    ∃ text, cache.texts.lookup path = some text ∧ tree = Parsed.ofText grammar path text

/-- The look that settles a question was taken when the disk was `seen`. -/
def Settled (grammar : Grammar) (seen : Disk) (question : Question) (cache : Cache) : Prop :=
  if question.needsText then
    cache.texts.lookup question.path = some (Project.specText ⟨seen, grammar⟩ question.path)
  else cache.existing.lookup question.path = some (seen.isFile question.path)

/-- The look that settles a question is still to be taken. -/
def Unsettled (question : Question) (cache : Cache) : Prop :=
  if question.needsText then cache.texts.lookup question.path = none
  else cache.existing.lookup question.path = none

theorem settled_congr {seen : Disk} {question other : Question}
    (shared : question.sharesLook other = true) :
    Settled grammar seen question cache ↔ Settled grammar seen other cache := by
  obtain ⟨path, needs⟩ := (Question.sharesLook_iff ..).mp shared
  simp only [Settled, path, needs]

theorem unsettled_congr {question other : Question} (shared : question.sharesLook other = true) :
    Unsettled question cache ↔ Unsettled other cache := by
  obtain ⟨path, needs⟩ := (Question.sharesLook_iff ..).mp shared
  simp only [Unsettled, path, needs]

/-! ### Single lookups -/

theorem isFile_eq (project : Project) (path : Path) (cache : Cache) :
    isFile project path cache =
      match cache.existing.lookup path with
      | some known => (known, cache)
      | none => (project.disk.isFile path,
          { cache with existing := (path, project.disk.isFile path) :: cache.existing }) := rfl

theorem text_eq (project : Project) (path : Path) (cache : Cache) :
    text project path cache =
      match cache.texts.lookup path with
      | some known => (known, cache)
      | none => (project.specText path,
          { cache.report (firstRead project path).2 with
            texts := (path, project.specText path) :: cache.texts }) := rfl

theorem parsed_eq (project : Project) (path : Path) (cache : Cache) :
    parsed project path cache =
      match cache.trees.lookup path with
      | some known => (known, cache)
      | none =>
        let made := Parsed.ofText project.grammar path (text project path cache).1
        (made, { (text project path cache).2.report made.events with
          trees := (path, made) :: (text project path cache).2.trees }) := rfl

theorem lookup_cons_other {α : Type} {path other : Path} (apart : path ≠ other) (value : α)
    (entries : List (Path × α)) :
    ((other, value) :: entries).lookup path = entries.lookup path := by
  rw [List.lookup_cons, beq_eq_false_iff_ne.mpr apart]

theorem sameAt_text_other (project : Project) {path other : Path} (apart : path ≠ other)
    (cache : Cache) : SameAt path (text project other cache).2 cache := by
  rw [text_eq]
  split
  · exact ⟨rfl, rfl, rfl⟩
  · exact ⟨rfl, lookup_cons_other apart .., rfl⟩

/-- A question about one path brings nothing to light about another. -/
theorem sameAt_ask_other (project : Project) {question : Question} {path : Path}
    (apart : path ≠ question.path) (cache : Cache) :
    SameAt path (question.ask project cache).2 cache := by
  cases question with
  | isFile other =>
    rw [Question.ask_isFile, isFile_eq]
    split
    · exact ⟨rfl, rfl, rfl⟩
    · exact ⟨lookup_cons_other apart .., rfl, rfl⟩
  | text other => exact sameAt_text_other project apart cache
  | parsed other =>
    rw [Question.ask_parsed, parsed_eq]
    split
    · exact ⟨rfl, rfl, rfl⟩
    · obtain ⟨existing, texts, trees⟩ := sameAt_text_other project apart cache
      exact ⟨existing, texts, (lookup_cons_other apart ..).trans trees⟩

/-- Two runs of a lookup say the same, know the same of the path afterwards and report the same. -/
def Alike {α : Type} (path : Path) (cache other : Cache) (act : StateM Cache α) : Prop :=
  (act cache).1 = (act other).1 ∧ SameAt path (act cache).2 (act other).2 ∧
    ∃ events, (act cache).2.events = cache.events ++ events ∧
      (act other).2.events = other.events ++ events

theorem alike_isFile (project : Project) {path : Path} {cache other : Cache}
    (same : SameAt path cache other) : Alike path cache other (isFile project path) := by
  unfold Alike
  rw [isFile_eq, isFile_eq, same.existing]
  cases other.existing.lookup path with
  | some known => exact ⟨rfl, same, [], by simp⟩
  | none =>
    refine ⟨rfl, ⟨?_, same.texts, same.trees⟩, [], by simp⟩
    simp only [List.lookup_cons_self]

theorem alike_text (project : Project) {path : Path} {cache other : Cache}
    (same : SameAt path cache other) : Alike path cache other (text project path) := by
  unfold Alike
  rw [text_eq, text_eq, same.texts]
  cases other.texts.lookup path with
  | some known => exact ⟨rfl, same, [], by simp⟩
  | none =>
    refine ⟨rfl, ⟨same.existing, ?_, same.trees⟩, (firstRead project path).2, rfl, rfl⟩
    simp only [List.lookup_cons_self]

theorem alike_parsed (project : Project) {path : Path} {cache other : Cache}
    (same : SameAt path cache other) : Alike path cache other (parsed project path) := by
  unfold Alike
  rw [parsed_eq, parsed_eq, same.trees]
  cases other.trees.lookup path with
  | some known => exact ⟨rfl, same, [], by simp⟩
  | none =>
    obtain ⟨said, later, events, here, there⟩ := alike_text project same
    simp only [said, true_and]
    refine ⟨⟨later.existing, later.texts, ?_⟩,
      events ++ (Parsed.ofText project.grammar path (text project path other).1).events, ?_, ?_⟩
    · simp only [List.lookup_cons_self]
    · simp [report, here]
    · simp [report, there]

/-- The answer and the events of a question, and what is known of its path afterwards, depend on
nothing but what was known of the path before. -/
theorem alike_ask (project : Project) (question : Question) {cache other : Cache}
    (same : SameAt question.path cache other) :
    Alike question.path cache other (question.ask project) := by
  cases question with
  | isFile path =>
    obtain ⟨said, rest⟩ := alike_isFile project same
    exact ⟨congrArg Answer.isFile said, rest⟩
  | text path =>
    obtain ⟨said, rest⟩ := alike_text project same
    exact ⟨congrArg Answer.text said, rest⟩
  | parsed path =>
    obtain ⟨said, rest⟩ := alike_parsed project same
    exact ⟨congrArg Answer.parsed said, rest⟩

/-! ### Looks -/

theorem lookup_text_self (project : Project) (path : Path) (cache : Cache) :
    (text project path cache).2.texts.lookup path = some (text project path cache).1 := by
  rw [text_eq]
  split
  next known => exact known
  next => simp only [List.lookup_cons_self]

/-- Looking for a file concerns no text. -/
theorem texts_isFile (project : Project) (path : Path) (cache : Cache) :
    (isFile project path cache).2.texts = cache.texts ∧
      (isFile project path cache).2.trees = cache.trees := by
  rw [isFile_eq]
  split <;> exact ⟨rfl, rfl⟩

theorem existing_text (project : Project) (path : Path) (cache : Cache) :
    (text project path cache).2.existing = cache.existing ∧
      (text project path cache).2.trees = cache.trees := by
  rw [text_eq]
  split <;> exact ⟨rfl, rfl⟩

theorem existing_parsed (project : Project) (path : Path) (cache : Cache) :
    (parsed project path cache).2.existing = cache.existing := by
  rw [parsed_eq]
  split
  · rfl
  · exact (existing_text project path cache).1

theorem SameAt.coherent {path : Path} {cache other : Cache} (same : SameAt path cache other)
    (coherent : Coherent grammar path other) : Coherent grammar path cache := by
  intro tree known
  rw [same.trees] at known
  rw [same.texts]
  exact coherent tree known

theorem coherent_text {path : Path} (coherent : Coherent grammar path cache) :
    Coherent grammar path (text ⟨disk, grammar⟩ path cache).2 := by
  intro tree known
  rw [(existing_text ..).2] at known
  obtain ⟨text, remembered, made⟩ := coherent tree known
  exact ⟨text, text_keeps _ _ _ _ _ remembered, made⟩

theorem coherent_ask (disk : Disk) (question : Question) {path : Path}
    (coherent : Coherent grammar path cache) :
    Coherent grammar path (question.ask ⟨disk, grammar⟩ cache).2 := by
  by_cases apart : path = question.path
  · subst apart
    cases question with
    | isFile path =>
      intro tree known
      obtain ⟨texts, trees⟩ := texts_isFile ⟨disk, grammar⟩ path cache
      obtain ⟨text, remembered, made⟩ := coherent tree (trees ▸ known)
      exact ⟨text, texts ▸ remembered, made⟩
    | text path => exact coherent_text coherent
    | parsed path =>
      change Coherent grammar path (parsed ⟨disk, grammar⟩ path cache).2
      rw [parsed_eq]
      split
      · exact coherent
      · intro tree known
        simp only [List.lookup_cons_self, Option.some.injEq] at known
        exact ⟨_, lookup_text_self .., known.symm⟩
  · exact (sameAt_ask_other _ apart cache).coherent coherent

/-- A question whose look was taken is answered by that look. -/
theorem ask_of_settled {seen : Disk} {question : Question}
    (coherent : Coherent grammar question.path cache)
    (settled : Settled grammar seen question cache) :
    (question.ask ⟨disk, grammar⟩ cache).1 = question.answer ⟨seen, grammar⟩ := by
  cases question with
  | isFile path =>
    have known : cache.existing.lookup path = some (seen.isFile path) := settled
    rw [Question.ask_isFile, isFile_eq, known]
    rfl
  | text path =>
    have known : cache.texts.lookup path = some (Project.specText ⟨seen, grammar⟩ path) := settled
    rw [Question.ask_text, text_eq, known]
    rfl
  | parsed path =>
    have known : cache.texts.lookup path = some (Project.specText ⟨seen, grammar⟩ path) := settled
    change Answer.parsed (parsed ⟨disk, grammar⟩ path cache).1 =
      .parsed (Parsed.ofText grammar path (Project.specText ⟨seen, grammar⟩ path))
    rw [parsed_eq]
    split
    next tree remembered =>
      -- a tree that is there already was made from the same text
      obtain ⟨text, same, made⟩ :=
        (show Coherent grammar path cache from coherent) tree remembered
      rw [known, Option.some.injEq] at same
      rw [made, same]
    next => simp only [text_eq, known]

/-- A question whose look is still to be taken takes it now. -/
theorem ask_of_unsettled (disk : Disk) {question : Question}
    (coherent : Coherent grammar question.path cache) (unsettled : Unsettled question cache) :
    (question.ask ⟨disk, grammar⟩ cache).1 = question.answer ⟨disk, grammar⟩ ∧
      Settled grammar disk question (question.ask ⟨disk, grammar⟩ cache).2 := by
  cases question with
  | isFile path =>
    have unknown : cache.existing.lookup path = none := unsettled
    change Answer.isFile (isFile ⟨disk, grammar⟩ path cache).1 = .isFile (disk.isFile path) ∧
      (isFile ⟨disk, grammar⟩ path cache).2.existing.lookup path = some (disk.isFile path)
    rw [isFile_eq, unknown]
    exact ⟨rfl, List.lookup_cons_self⟩
  | text path =>
    have unknown : cache.texts.lookup path = none := unsettled
    have said : (text ⟨disk, grammar⟩ path cache).1 = Project.specText ⟨disk, grammar⟩ path := by
      rw [text_eq, unknown]
    refine ⟨congrArg Answer.text said, ?_⟩
    exact (lookup_text_self ..).trans (congrArg some said)
  | parsed path =>
    have unknown : cache.texts.lookup path = none := unsettled
    have said : (text ⟨disk, grammar⟩ path cache).1 = Project.specText ⟨disk, grammar⟩ path := by
      rw [text_eq, unknown]
    -- without a text there is no tree
    have absent : cache.trees.lookup path = none := by
      cases remembered : cache.trees.lookup path with
      | none => rfl
      | some tree =>
        obtain ⟨text, known, _⟩ :=
          (show Coherent grammar path cache from coherent) tree remembered
        rw [unknown] at known
        cases known
    change Answer.parsed (parsed ⟨disk, grammar⟩ path cache).1 =
        .parsed (Parsed.ofText grammar path (Project.specText ⟨disk, grammar⟩ path)) ∧
      (parsed ⟨disk, grammar⟩ path cache).2.texts.lookup path =
        some (Project.specText ⟨disk, grammar⟩ path)
    rw [parsed_eq, absent, ← said]
    exact ⟨rfl, lookup_text_self ..⟩

theorem lookup_existing_ask (project : Project) (question : Question) {path : Path} {found : Bool}
    (known : cache.existing.lookup path = some found) :
    (question.ask project cache).2.existing.lookup path = some found := by
  by_cases apart : path = question.path
  · subst apart
    cases question with
    | isFile path =>
      rw [Question.ask_isFile, isFile_eq, show cache.existing.lookup path = some found from known]
      exact known
    | text path =>
      rw [← known]
      exact congrArg (List.lookup path) (existing_text project path cache).1
    | parsed path =>
      rw [← known]
      exact congrArg (List.lookup path) (existing_parsed project path cache)
  · rw [(sameAt_ask_other project apart cache).existing, known]

theorem lookup_texts_ask (project : Project) (question : Question) {path : Path} {found : String}
    (known : cache.texts.lookup path = some found) :
    (question.ask project cache).2.texts.lookup path = some found := by
  cases question with
  | isFile other =>
    rw [← known]
    exact congrArg (List.lookup path) (texts_isFile project other cache).1
  | text other => exact text_keeps _ _ _ _ _ known
  | parsed other =>
    rw [Question.ask_parsed, parsed_eq]
    split
    · exact known
    · exact text_keeps _ _ _ _ _ known

/-- A look is taken once. -/
theorem Settled.ask {seen : Disk} {question : Question} (project : Project) (other : Question)
    (settled : Settled grammar seen question cache) :
    Settled grammar seen question (other.ask project cache).2 := by
  unfold Settled at settled ⊢
  split
  next needs =>
    rw [if_pos needs] at settled
    exact lookup_texts_ask project other settled
  next needless =>
    rw [if_neg needless] at settled
    exact lookup_existing_ask project other settled

/-- Questions that share no look leave each other's to be taken. -/
theorem Unsettled.ask {question other : Question} (project : Project)
    (apart : other.sharesLook question = false) (unsettled : Unsettled question cache) :
    Unsettled question (other.ask project cache).2 := by
  unfold Unsettled at unsettled ⊢
  by_cases elsewhere : question.path = other.path
  · have differ := Question.needsText_ne apart elsewhere.symm
    cases other with
    | isFile path =>
      have needs : question.needsText = true := by simpa [Question.needsText] using differ
      rw [if_pos needs] at unsettled ⊢
      rw [← unsettled]
      exact congrArg (List.lookup _) (texts_isFile project path cache).1
    | text path =>
      have needless : question.needsText = false := by simpa [Question.needsText] using differ
      rw [needless] at unsettled ⊢
      exact (congrArg (List.lookup _) (existing_text project path cache).1).trans unsettled
    | parsed path =>
      have needless : question.needsText = false := by simpa [Question.needsText] using differ
      rw [needless] at unsettled ⊢
      exact (congrArg (List.lookup _) (existing_parsed project path cache)).trans unsettled
  · have same := sameAt_ask_other project elsewhere cache
    rw [same.existing, same.texts]
    exact unsettled

/-! ### Reports of unreadable files -/

theorem events_ask (project : Project) (question : Question) (cache : Cache) :
    (question.ask project cache).2.events =
      cache.events ++ newEvents project question cache := by
  have same : SameAt question.path cache cache := ⟨rfl, rfl, rfl⟩
  obtain ⟨_, _, events, added, _⟩ := alike_ask project question same
  rw [newEvents, added, List.drop_left]

theorem isReadFailure_firstRead (project : Project) (path : Path) :
    (firstRead project path).2.filter isReadFailure = (firstRead project path).2 := by
  unfold firstRead
  split <;> rfl

theorem events_text (project : Project) (path : Path) (cache : Cache) :
    (text project path cache).2.events =
      cache.events ++ if (cache.texts.lookup path).isSome then [] else
        (firstRead project path).2 := by
  rw [text_eq]
  split
  next known => simp [known]
  next unknown => simp [unknown, report]

/-- A question reports an unreadable file only if it takes the look at the text. -/
theorem failures_ask {question : Question} (coherent : Coherent grammar question.path cache) :
    (newEvents ⟨disk, grammar⟩ question cache).filter isReadFailure =
      if question.needsText ∧ cache.texts.lookup question.path = none then
        (firstRead ⟨disk, grammar⟩ question.path).2
      else [] := by
  cases question with
  | isFile path =>
    have same : (isFile ⟨disk, grammar⟩ path cache).2.events = cache.events := by
      rw [isFile_eq]
      split <;> rfl
    have added : newEvents ⟨disk, grammar⟩ (.isFile path) cache = [] := by
      simp only [newEvents, Question.ask_isFile, same, List.drop_length]
    simp [added, Question.needsText]
  | text path =>
    have added : newEvents ⟨disk, grammar⟩ (.text path) cache =
        if (cache.texts.lookup path).isSome then [] else
          (firstRead ⟨disk, grammar⟩ path).2 := by
      simp only [newEvents, Question.ask_text, events_text, List.drop_left]
    rw [added]
    cases known : cache.texts.lookup path <;>
      simp [known, Question.needsText, Question.path, isReadFailure_firstRead]
  | parsed path =>
    cases remembered : cache.trees.lookup path with
    | some tree =>
      obtain ⟨text, known, _⟩ := (show Coherent grammar path cache from coherent) tree remembered
      have same : (parsed ⟨disk, grammar⟩ path cache).2.events = cache.events := by
        rw [parsed_eq, remembered]
      have added : newEvents ⟨disk, grammar⟩ (.parsed path) cache = [] := by
        simp only [newEvents, Question.ask_parsed, same, List.drop_length]
      simp [added, known, Question.path]
    | none =>
      have later : ((Question.parsed path).ask ⟨disk, grammar⟩ cache).2.events =
          (text ⟨disk, grammar⟩ path cache).2.events ++
            (Parsed.ofText grammar path (text ⟨disk, grammar⟩ path cache).1).events := by
        rw [Question.ask_parsed, parsed_eq, remembered]
        rfl
      -- the events of parsing are of another kind
      have others (tree : Parsed) : tree.events.filter isReadFailure = [] := by
        unfold Parsed.events
        split <;> rfl
      rw [newEvents, later, events_text, List.append_assoc, List.drop_left, List.filter_append,
        others, List.append_nil]
      cases known : cache.texts.lookup path <;>
        simp [known, Question.needsText, Question.path, isReadFailure_firstRead]

end Cache

end SpecLint.Spec
