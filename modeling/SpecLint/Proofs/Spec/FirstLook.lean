import SpecLint.Proofs.Spec.Question

/-!
# The first look at a spec file

While a source file is analysed, the disk may change between any two lookups: files come, go and are
written anew. The memory of spec files does not follow these changes. Whether a path is a file is
settled by the first question about that, and its text by the first question that needs it, be it
for the text itself or for the tree. All later answers are read off these two looks.

## Main result

`history_first_look`: every answer in a history is the one that the disk gives as the first question
of its kind about the path found it. What follows from that for single answers, for the report of a
file that cannot be read and for questions about different paths is stated with it.
-/
namespace SpecLint.Spec

open SpecLint.Code SpecLint.Report

/-! ### Histories -/

/-- What happens around a memory: something outside changes the disk, or a question is asked. -/
inductive Step where
  | change (change : Disk → Disk)
  | ask (question : Question)

/-- The question that a step asks. -/
def Step.question? : Step → Option Question
  | change _ => none
  | ask question => some question

/-- Whether a step is no question about another path. -/
def Step.concerns (path : Path) : Step → Bool
  | change _ => true
  | ask question => question.path == path

/-- A question, the disk as it found it, the answer, and what was reported on the way. -/
structure Reply where
  disk : Disk
  question : Question
  answer : Answer
  events : List Event

/-- All replies in their order, from a disk and a memory on. -/
def history (grammar : Grammar) : Disk → Cache → List Step → List Reply
  | _, _, [] => []
  | disk, cache, .change change :: steps => history grammar (change disk) cache steps
  | disk, cache, .ask question :: steps =>
    let project : Project := ⟨disk, grammar⟩
    ⟨disk, question, (question.ask project cache).1, newEvents project question cache⟩ ::
      history grammar disk (question.ask project cache).2 steps

/-- The memory at the end. -/
def remembered (grammar : Grammar) : Disk → Cache → List Step → Cache
  | _, cache, [] => cache
  | disk, cache, .change change :: steps => remembered grammar (change disk) cache steps
  | disk, cache, .ask question :: steps =>
    remembered grammar disk (question.ask ⟨disk, grammar⟩ cache).2 steps

/-! ### Whole histories -/

open Cache

variable {grammar : Grammar}

/-- After a look was taken, all that it settles is answered by it. -/
theorem answer_of_settled {seen : Disk} {question : Question} (steps : List Step) {disk : Disk}
    {cache : Cache} (coherent : Coherent grammar question.path cache)
    (settled : Settled grammar seen question cache) :
    ∀ reply ∈ history grammar disk cache steps, reply.question.sharesLook question = true →
      reply.answer = reply.question.answer ⟨seen, grammar⟩ := by
  induction steps generalizing disk cache with
  | nil => simp [history]
  | cons step steps ih =>
    cases step with
    | change change => exact ih coherent settled
    | ask other =>
      simp only [history, List.forall_mem_cons]
      refine ⟨fun shared => ?_, ih (coherent_ask _ other coherent) (settled.ask _ other)⟩
      have path := ((Question.sharesLook_iff ..).mp shared).1
      exact ask_of_settled (path ▸ coherent) ((settled_congr shared).mpr settled)

/-- As long as a look is to be taken, the first question that takes it finds the disk by which all
that it settles is answered. -/
theorem answer_of_unsettled {question : Question} (steps : List Step) {disk : Disk} {cache : Cache}
    (coherent : Coherent grammar question.path cache) (unsettled : Unsettled question cache) :
    ∀ reply ∈ history grammar disk cache steps, reply.question.sharesLook question = true →
      ∃ first, (history grammar disk cache steps).find?
          (fun other => other.question.sharesLook question) = some first ∧
        reply.answer = reply.question.answer ⟨first.disk, grammar⟩ := by
  induction steps generalizing disk cache with
  | nil => simp [history]
  | cons step steps ih =>
    cases step with
    | change change => exact ih coherent unsettled
    | ask other =>
      cases takes : other.sharesLook question with
      | true =>
        have path := ((Question.sharesLook_iff ..).mp takes).1
        obtain ⟨said, settled⟩ := ask_of_unsettled disk (path ▸ coherent)
          ((unsettled_congr takes).mpr unsettled)
        simp only [history, List.find?_cons, takes, List.forall_mem_cons]
        refine ⟨fun _ => ⟨_, rfl, said⟩, fun reply member shared => ⟨_, rfl, ?_⟩⟩
        exact answer_of_settled steps (coherent_ask _ other coherent)
          ((settled_congr takes).mp settled) reply member shared
      | false =>
        simp only [history, List.find?_cons, takes, List.forall_mem_cons, Bool.false_eq_true,
          false_implies, true_and]
        exact ih (coherent_ask _ other coherent) (unsettled.ask _ takes)

/-- The reports of an unreadable file at a path. -/
def failuresAt (path : Path) (replies : List Reply) : List Event :=
  (replies.filter (·.question.path == path)).flatMap (·.events.filter isReadFailure)

theorem failuresAt_cons (path : Path) (reply : Reply) (replies : List Reply) :
    failuresAt path (reply :: replies) =
      (if reply.question.path = path then reply.events.filter isReadFailure else []) ++
        failuresAt path replies := by
  unfold failuresAt
  by_cases about : reply.question.path = path <;> simp [about]

/-- After the look at a text was taken, the file is not reported any more. -/
theorem failuresAt_of_settled {path : Path} {seen : Disk} (steps : List Step) {disk : Disk}
    {cache : Cache} (coherent : Coherent grammar path cache)
    (settled : Settled grammar seen (.text path) cache) :
    failuresAt path (history grammar disk cache steps) = [] := by
  induction steps generalizing disk cache with
  | nil => rfl
  | cons step steps ih =>
    cases step with
    | change change => exact ih coherent settled
    | ask question =>
      rw [history, failuresAt_cons, ih (coherent_ask _ question coherent) (settled.ask _ question),
        List.append_nil]
      split
      next about =>
        subst about
        have known : cache.texts.lookup question.path = some _ := settled
        rw [failures_ask coherent, known]
        simp
      next => rfl

/-- Over a whole history, an unreadable file is reported by the first look at its text only. -/
theorem failuresAt_of_unsettled {path : Path} (steps : List Step) {disk : Disk} {cache : Cache}
    (coherent : Coherent grammar path cache) (unsettled : Unsettled (.text path) cache) :
    failuresAt path (history grammar disk cache steps) =
      match (history grammar disk cache steps).find? (·.question.sharesLook (.text path)) with
      | some first => (firstRead ⟨first.disk, grammar⟩ path).2
      | none => [] := by
  induction steps generalizing disk cache with
  | nil => rfl
  | cons step steps ih =>
    cases step with
    | change change => exact ih coherent unsettled
    | ask question =>
      have unknown : cache.texts.lookup path = none := unsettled
      have kept := coherent_ask disk question coherent
      rw [history, failuresAt_cons, List.find?_cons]
      cases takes : question.sharesLook (.text path) with
      | true =>
        -- this question takes the look, and nothing later reports the file again
        obtain ⟨rfl, needs⟩ := (Question.sharesLook_iff ..).mp takes
        obtain ⟨_, settled⟩ := ask_of_unsettled disk coherent
          ((unsettled_congr takes).mpr unsettled)
        rw [failuresAt_of_settled steps kept ((settled_congr takes).mp settled), if_pos rfl,
          failures_ask coherent, if_pos ⟨needs, unknown⟩, List.append_nil]
      | false =>
        rw [ih kept (unsettled.ask _ takes)]
        split
        next about =>
          subst about
          have needless : question.needsText = false := by
            simpa [Question.needsText] using Question.needsText_ne takes rfl
          simp [failures_ask coherent, needless]
        next => rfl

/-- Questions about one path are answered as if no other path had been asked about. -/
theorem filter_history (path : Path) (steps : List Step) {disk : Disk} {cache other : Cache}
    (same : SameAt path cache other) :
    (history grammar disk cache steps).filter (·.question.path == path) =
      history grammar disk other (steps.filter (Step.concerns path)) := by
  induction steps generalizing disk cache other with
  | nil => rfl
  | cons step steps ih =>
    cases step with
    | change change => exact ih same
    | ask question =>
      by_cases about : question.path = path
      · subst about
        obtain ⟨said, later, events, here, there⟩ := alike_ask ⟨disk, grammar⟩ question same
        have added : newEvents ⟨disk, grammar⟩ question cache =
            newEvents ⟨disk, grammar⟩ question other := by
          rw [newEvents, newEvents, here, there, List.drop_left, List.drop_left]
        simp [history, Step.concerns, said, added, ih later]
      · have skipped := sameAt_ask_other ⟨disk, grammar⟩ (Ne.symm about) cache
        simp [history, Step.concerns, about, ih (skipped.trans same)]

theorem events_remembered (steps : List Step) {disk : Disk} {cache : Cache} :
    (remembered grammar disk cache steps).events =
      cache.events ++ (history grammar disk cache steps).flatMap (·.events) := by
  induction steps generalizing disk cache with
  | nil => simp [remembered, history]
  | cons step steps ih =>
    cases step with
    | change change => exact ih
    | ask question => simp [remembered, history, ih, events_ask, List.append_assoc]

/-- Every question gets a reply. -/
theorem map_question_history (steps : List Step) {disk : Disk} {cache : Cache} :
    (history grammar disk cache steps).map (·.question) = steps.filterMap Step.question? := by
  induction steps generalizing disk cache with
  | nil => rfl
  | cons step steps ih =>
    cases step with
    | change change => exact ih
    | ask question => simp [history, Step.question?, ih]

theorem answer_of_first (disk : Disk) (steps : List Step) :
    ∀ reply ∈ history grammar disk .empty steps, ∃ first,
      (history grammar disk .empty steps).find?
          (fun other => other.question.sharesLook reply.question) = some first ∧
        reply.answer = reply.question.answer ⟨first.disk, grammar⟩ := by
  intro reply member
  have coherent : Coherent grammar reply.question.path .empty := fun _ known => nomatch known
  have unsettled : Unsettled reply.question .empty := by
    unfold Unsettled
    split <;> rfl
  exact answer_of_unsettled steps coherent unsettled reply member
    ((Question.sharesLook_iff ..).mpr ⟨rfl, rfl⟩)

/-- Questions that share a look are answered from the same disk. -/
theorem answer_of_shared {disk : Disk} {steps : List Step} {reply first : Reply}
    {question : Question} (member : reply ∈ history grammar disk .empty steps)
    (shares : reply.question.sharesLook question = true)
    (found : (history grammar disk .empty steps).find?
      (·.question.sharesLook question) = some first) :
    reply.answer = reply.question.answer ⟨first.disk, grammar⟩ := by
  obtain ⟨other, same, said⟩ := answer_of_first disk steps reply member
  obtain ⟨path, needs⟩ := (Question.sharesLook_iff ..).mp shares
  simp only [Question.sharesLook, path, needs] at same
  simp only [Question.sharesLook] at found
  rw [found, Option.some.injEq] at same
  rw [said, same]

theorem failuresAt_history (path : Path) (disk : Disk) (steps : List Step) :
    failuresAt path (history grammar disk .empty steps) =
      match (history grammar disk .empty steps).find? (·.question.sharesLook (.text path)) with
      | some first => (firstRead ⟨first.disk, grammar⟩ path).2
      | none => [] :=
  failuresAt_of_unsettled steps (fun _ known => nomatch known) rfl

/-- Whatever happens to the disk, the memory answers every question as the disk did when the look
was first taken that settles it. So an answer never changes, trees are made from the texts that are
answered, an unreadable file is empty from then on and reported once, and questions about one path
have no part in the answers about another. -/
theorem history_first_look (grammar : Grammar) (disk : Disk) (steps : List Step) :
    let replies := history grammar disk .empty steps
    replies.map (·.question) = steps.filterMap Step.question? ∧
    (∀ reply ∈ replies, ∃ first,
      replies.find? (fun other => other.question.sharesLook reply.question) = some first ∧
        reply.answer = reply.question.answer ⟨first.disk, grammar⟩) ∧
    (∀ earlier ∈ replies, ∀ later ∈ replies, later.question = earlier.question →
      later.answer = earlier.answer) ∧
    (∀ path text, ∀ reading ∈ replies, reading.question = .text path →
      reading.answer = .text text → ∀ parsing ∈ replies, parsing.question = .parsed path →
        parsing.answer = .parsed (Parsed.ofText grammar path text)) ∧
    (∀ path first fault, replies.find? (·.question.sharesLook (.text path)) = some first →
      first.disk.readText path = .error fault →
        (∀ reply ∈ replies, reply.question = .text path → reply.answer = .text "") ∧
        (∀ reply ∈ replies, reply.question = .parsed path →
          reply.answer = .parsed (Parsed.ofText grammar path "")) ∧
        failuresAt path replies = [.readFailed path.toString (fault.message path)]) ∧
    (∀ path, (∀ first fault, replies.find? (·.question.sharesLook (.text path)) = some first →
      first.disk.readText path ≠ .error fault) → failuresAt path replies = []) ∧
    (remembered grammar disk .empty steps).events = replies.flatMap (·.events) ∧
    ∀ path, replies.filter (·.question.path == path) =
      history grammar disk .empty (steps.filter (Step.concerns path)) := by
  intro replies
  -- a question for a text or a tree shares the look at the text
  have sharesText {path : Path} {question : Question}
      (asked : question = .text path ∨ question = .parsed path) :
      question.sharesLook (.text path) = true := by
    rcases asked with rfl | rfl <;> simp [Question.sharesLook, Question.path, Question.needsText]
  refine ⟨map_question_history steps, answer_of_first disk steps, ?_, ?_, ?_, ?_, ?_, ?_⟩
  · intro earlier before later after same
    obtain ⟨first, found, said⟩ := answer_of_first disk steps earlier before
    have shares : later.question.sharesLook earlier.question = true :=
      (Question.sharesLook_iff ..).mpr (by rw [same]; exact ⟨rfl, rfl⟩)
    rw [said, answer_of_shared after shares found, same]
  · intro path text reading read asked answered parsing parse parses
    obtain ⟨first, found, said⟩ := answer_of_first disk steps reading read
    rw [asked] at found said
    have same : text = Project.specText ⟨first.disk, grammar⟩ path :=
      Answer.text.inj (answered.symm.trans said)
    rw [answer_of_shared parse (sharesText (.inr parses)) found, parses, same]
    rfl
  · intro path first fault found unreadable
    have empty : Project.specText ⟨first.disk, grammar⟩ path = "" := by
      simp [Project.specText, firstRead, unreadable]
    refine ⟨fun reply member asked => ?_, fun reply member asked => ?_, ?_⟩
    · rw [answer_of_shared member (sharesText (.inl asked)) found, asked, Question.answer, empty]
    · rw [answer_of_shared member (sharesText (.inr asked)) found, asked, Question.answer,
        Project.specParsed, empty]
    · rw [failuresAt_history, found]
      simp [firstRead, unreadable]
  · intro path readable
    rw [failuresAt_history]
    cases found : replies.find? (·.question.sharesLook (.text path)) with
    | none => rfl
    | some first =>
      cases read : first.disk.readText path with
      | ok text => simp [firstRead, read]
      | error fault => exact absurd read (readable first fault found)
  · exact events_remembered steps
  · intro path
    exact filter_history path steps ⟨rfl, rfl, rfl⟩

/-! A spec file that is written only after it was first looked for. -/

def lateSpec : Path := ⟨"", ["user_spec.rb"]⟩

def lateSteps : List Step :=
  [.ask (.parsed lateSpec), .change (·.write lateSpec (.file "describe User".toUTF8)),
    .ask (.text lateSpec), .ask (.isFile lateSpec)]

theorem history_late_spec :
    let replies := history (fun _ => .empty) (.empty []) .empty lateSteps
    (∀ reply ∈ replies, reply.question = .text lateSpec → reply.answer = .text "") ∧
      failuresAt lateSpec replies =
        [.readFailed "user_spec.rb" "[Errno 2] No such file or directory: 'user_spec.rb'"] := by
  intro replies
  have frozen := history_first_look (fun _ => .empty) (.empty []) lateSteps
  obtain ⟨empty, _, reported⟩ := frozen.2.2.2.2.1 lateSpec _ .missing rfl rfl
  exact ⟨empty, reported⟩

end SpecLint.Spec
