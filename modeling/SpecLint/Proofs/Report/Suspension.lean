import Mathlib.Data.List.Induction
import SpecLint.Report.Log

/-!
# Sections without console output

While a live display is drawn the console outputs of the log are suspended: the program is in a
section that it leaves whether or not an exception ends it. Sections lie within each other. The log
only remembers whether the last thing that happened was that a section was entered, which is not the
same once an inner section has been left and the outer one goes on.

## Main result

`deliver_of_trace`: what is written where for a message, at any moment of any program.

## Proof strategy

What a program does to its log is a list of steps. One step decides whether the console is suspended
or leaves that as it was, so after any steps it is suspended exactly if no section has been left
since the last one was entered. Sections are left as often as they have been entered at most, so
some section is open then.
-/
namespace SpecLint.Report

/-- What happens to a log: a message is logged, or a section is entered or left. -/
inductive LogStep where
  | record (message : Message)
  | enter
  | leave

namespace LogStep

def apply (log : Log) : LogStep → Log
  | record _ => log
  | enter => log.suspendConsole
  | leave => log.resumeConsole

def isEnter : LogStep → Bool
  | enter => true
  | _ => false

def isLeave : LogStep → Bool
  | leave => true
  | _ => false

end LogStep

/-- The log after some steps. -/
def Log.after (log : Log) (steps : List LogStep) : Log := steps.foldl LogStep.apply log

/-- How many sections have been entered and not left. -/
def openSections (steps : List LogStep) : Nat :=
  steps.countP LogStep.isEnter - steps.countP LogStep.isLeave

/-- No section has been left since the last one was entered. -/
def IsFresh (steps : List LogStep) : Prop :=
  ∃ (earlier : List LogStep) (messages : List Message),
    steps = earlier ++ .enter :: messages.map .record

/-- Sections are left after they have been entered, and all of them are left. -/
structure IsNested (steps : List LogStep) : Prop where
  entered : ∀ count, (steps.take count).countP LogStep.isLeave ≤
    (steps.take count).countP LogStep.isEnter
  closed : steps.countP LogStep.isLeave = steps.countP LogStep.isEnter

/-- A program, as far as its log is concerned. -/
inductive Activity where
  | idle
  | report (message : Message)
  /-- An exception is raised. -/
  | fail
  | next (first second : Activity)
  /-- An exception in the body is caught. -/
  | rescue (body handler : Activity)
  /-- A section. -/
  | suspended (body : Activity)

namespace Activity

/-- An exception leaves the program. -/
def fails : Activity → Bool
  | idle | report _ => false
  | fail => true
  | next first second => first.fails || second.fails
  | rescue body handler => body.fails && handler.fails
  | suspended body => body.fails

/-- What the program does to the log. A section is left whatever ends it. -/
def trace : Activity → List LogStep
  | idle | fail => []
  | report message => [.record message]
  | next first second => first.trace ++ if first.fails then [] else second.trace
  | rescue body handler => body.trace ++ if body.fails then handler.trace else []
  | suspended body => .enter :: (body.trace ++ [.leave])

end Activity

/-! ### Sections lie within each other -/

theorem IsNested.nil : IsNested [] := ⟨by simp, rfl⟩

theorem IsNested.append {first second : List LogStep} (left : IsNested first)
    (right : IsNested second) : IsNested (first ++ second) where
  entered count := by
    rw [List.take_append, List.countP_append, List.countP_append]
    exact Nat.add_le_add (left.entered count) (right.entered _)
  closed := by rw [List.countP_append, List.countP_append, left.closed, right.closed]

/-- What lies between entering a section and leaving it is nested as before. -/
theorem IsNested.wrap {steps : List LogStep} (inner : IsNested steps) :
    IsNested (.enter :: (steps ++ [.leave])) where
  entered count := by
    cases count with
    | zero => simp
    | succ count =>
      have within := inner.entered count
      -- the step that leaves makes up for the one that enters
      have last : ([LogStep.leave].take (count - steps.length)).countP LogStep.isLeave ≤ 1 :=
        Nat.le_trans List.countP_le_length (List.length_take_le' _ _)
      simp only [List.take_succ_cons, List.take_append, List.countP_cons, List.countP_append,
        LogStep.isEnter, LogStep.isLeave, Bool.false_eq_true, if_true, if_false]
      omega
  closed := by
    simp [List.countP_cons, List.countP_append, LogStep.isEnter, LogStep.isLeave, inner.closed]

/-- The sections of a program are nested, however it ends. -/
theorem Activity.isNested_trace (activity : Activity) : IsNested activity.trace := by
  induction activity with
  | idle => exact .nil
  | report message =>
    refine ⟨fun count => ?_, rfl⟩
    cases count <;> simp [trace, LogStep.isLeave]
  | fail => exact .nil
  | next first second left right =>
    refine left.append ?_
    split
    · exact .nil
    · exact right
  | rescue body handler inner caught =>
    refine inner.append ?_
    split
    · exact caught
    · exact .nil
  | suspended body inner => exact inner.wrap

/-- A section that has been entered last is open. -/
theorem IsNested.openSections_pos {steps before after : List LogStep} (nested : IsNested steps)
    (place : steps = before ++ after) (fresh : IsFresh before) : 0 < openSections before := by
  obtain ⟨earlier, messages, rfl⟩ := fresh
  -- even if all earlier sections are left, the last one is not
  have within := nested.entered earlier.length
  rw [place, List.append_assoc, List.take_left] at within
  have quiet (test : LogStep → Bool) (none : ∀ message, test (.record message) = false) :
      (messages.map LogStep.record).countP test = 0 := by
    simp [List.countP_map, Function.comp_def, none]
  simp only [openSections, List.countP_append, List.countP_cons, LogStep.isEnter, LogStep.isLeave,
    quiet LogStep.isEnter fun _ => rfl, quiet LogStep.isLeave fun _ => rfl, if_true,
    Bool.false_eq_true, if_false]
  omega

/-! ### What the log remembers -/

/-- One more step: entering a section is fresh, leaving one is not, and a message changes nothing. -/
theorem isFresh_concat (steps : List LogStep) (step : LogStep) :
    IsFresh (steps ++ [step]) ↔ match step with
      | .record _ => IsFresh steps
      | .enter => True
      | .leave => False := by
  have parts (earlier : List LogStep) (messages : List Message) (last : Message) :
      earlier ++ LogStep.enter :: (messages ++ [last]).map .record =
        (earlier ++ .enter :: messages.map .record) ++ [.record last] := by simp
  refine ⟨?_, fun kept => ?_⟩
  · rintro ⟨earlier, messages, same⟩
    -- the last step is the last message, or else the section is entered with it
    rcases List.eq_nil_or_concat messages with rfl | ⟨others, last, rfl⟩
    · obtain ⟨-, ends⟩ := List.append_inj' same rfl
      cases List.singleton_inj.mp ends
      trivial
    · rw [List.concat_eq_append, parts] at same
      obtain ⟨front, ends⟩ := List.append_inj' same rfl
      cases List.singleton_inj.mp ends
      exact ⟨earlier, others, front⟩
  · cases step with
    | record message =>
      obtain ⟨earlier, messages, rfl⟩ := kept
      exact ⟨earlier, messages ++ [message], (parts earlier messages message).symm⟩
    | enter => exact ⟨steps, [], rfl⟩
    | leave => exact kept.elim

namespace Log

theorem after_concat (log : Log) (steps : List LogStep) (step : LogStep) :
    log.after (steps ++ [step]) = step.apply (log.after steps) := by
  rw [after, List.foldl_append]
  rfl

/-- One step changes nothing of a log but whether the console is suspended. -/
theorem apply_eq (log : Log) (step : LogStep) :
    step.apply log = { log with suspended := (step.apply log).suspended } := by
  cases step <;> rfl

/-- No steps change anything of a log but whether the console is suspended. -/
theorem after_eq (log : Log) (steps : List LogStep) :
    log.after steps = { log with suspended := (log.after steps).suspended } := by
  induction steps using List.reverseRecOn with
  | nil => rfl
  | append_singleton steps step ih =>
    rw [after_concat, apply_eq, ih]

/-- The console is suspended exactly if no section has been left since the last one was entered. -/
theorem suspended_after {log : Log} (outside : log.suspended = false) (steps : List LogStep) :
    (log.after steps).suspended = true ↔ IsFresh steps := by
  induction steps using List.reverseRecOn with
  | nil =>
    refine ⟨fun held => absurd (outside ▸ held) (by simp), ?_⟩
    rintro ⟨earlier, messages, same⟩
    simp at same
  | append_singleton steps step ih =>
    rw [after_concat, isFresh_concat]
    cases step with
    | record message => exact ih
    | enter => exact ⟨fun _ => trivial, fun _ => rfl⟩
    | leave => exact ⟨fun held => Bool.noConfusion held, False.elim⟩

end Log

/-- After a program the console is not suspended, however it ended. -/
theorem Activity.resumed_after {log : Log} (outside : log.suspended = false) (activity : Activity) :
    (log.after activity.trace).suspended = false := by
  have nested := activity.isNested_trace
  rw [← Bool.not_eq_true, Log.suspended_after outside]
  intro fresh
  have still : 0 < openSections activity.trace :=
    nested.openSections_pos (List.append_nil _).symm fresh
  rw [openSections, nested.closed] at still
  omega

/-! ### What is written -/

/-- The output is to receive messages of this level, within a section or not. -/
def Hears (logging : LoggingSettings) (level : Level) (inSection : Bool) (output : OutputSettings) :
    Prop :=
  logging.level.rank ≤ level.rank ∧ (output.level.getD logging.level).rank ≤ level.rank ∧
    (output.destination.isConsole = true → inSection = false)

instance (logging : LoggingSettings) (level : Level) (inSection : Bool) :
    DecidablePred (Hears logging level inSection) :=
  fun _ => inferInstanceAs (Decidable (_ ∧ _ ∧ (_ → _)))

/-- What an output writes for a message, and where. -/
def written (message : Message) (time : String) (runId : Option String) (output : OutputSettings) :
    Destination × String :=
  (output.destination, message.line output.format time runId)

/-- A configured log takes itself to be in a section exactly if its console is suspended. -/
theorem Log.deliver_configure (log : Log) (logging : LoggingSettings) (held : Bool) (time : String)
    (message : Message) :
    Log.deliver { log.configure logging with suspended := held } time message =
      (logging.outputs.filter (Hears logging message.level held)).map
        (written message time log.runId) := by
  simp only [deliver, receivers, configure, List.filter_map, List.map_map]
  congr 1
  refine List.filter_congr fun output _ => ?_
  rw [Bool.eq_iff_iff]
  simp only [Function.comp_apply, Bool.and_eq_true, decide_eq_true_eq, Bool.or_eq_true,
    Bool.not_eq_true', and_assoc, Hears, imp_iff_not_or, Bool.not_eq_true]
  exact and_congr decide_eq_true_iff .rfl

/-- What the files receive does not depend on sections. -/
theorem files_of_heard (logging : LoggingSettings) (message : Message) (time : String)
    (runId : Option String) (held inSection : Bool) :
    ((logging.outputs.filter (Hears logging message.level held)).map
        (written message time runId)).filter (!·.1.isConsole) =
      ((logging.outputs.filter (Hears logging message.level inSection)).map
        (written message time runId)).filter (!·.1.isConsole) := by
  simp only [List.filter_map, List.filter_filter]
  congr 1
  refine List.filter_congr fun output _ => ?_
  cases console : output.destination.isConsole <;> simp [Hears, written, console]

/-- Whatever a program does, at every message the files receive it exactly if it has the level of
the log and their own. So do the console outputs, if no section is open, and none of them receives
it within a section from which no inner one has been left. -/
theorem deliver_of_trace {log : Log} (outside : log.suspended = false) (logging : LoggingSettings)
    {activity : Activity} {before after : List LogStep} {message : Message}
    (place : activity.trace = before ++ .record message :: after) (time : String) :
    let received := ((log.configure logging).after before).deliver time message
    let heard := (logging.outputs.filter
      (Hears logging message.level (0 < openSections before))).map (written message time log.runId)
    received.filter (!·.1.isConsole) = heard.filter (!·.1.isConsole) ∧
      (openSections before = 0 ∨ IsFresh before → received = heard) := by
  intro received heard
  have started : (log.configure logging).suspended = false := outside
  have remembered := Log.suspended_after started before
  have inside := activity.isNested_trace.openSections_pos place
  have state : received = (logging.outputs.filter (Hears logging message.level
      ((log.configure logging).after before).suspended)).map (written message time log.runId) := by
    rw [← Log.deliver_configure, ← Log.after_eq]
  refine ⟨by rw [state]; exact files_of_heard .., fun known => ?_⟩
  -- where it is known which step came last, the log remembers whether a section is open
  have right : ((log.configure logging).after before).suspended =
      decide (0 < openSections before) := by
    rw [Bool.eq_iff_iff, remembered, decide_eq_true_eq]
    exact ⟨inside, fun within => known.resolve_left (Nat.pos_iff_ne_zero.mp within)⟩
  rw [state, right]

/-- A console and a file that keeps everything. -/
def consoleAndFile : LoggingSettings where
  level := .info
  outputs := [{}, { format := .json, destination := .file "/tmp/lint.jsonl", level := some .debug }]

def checked : Message where
  level := .info
  text := "checked"

/-- A message in a section that an exception ends, and again once that is caught. -/
def rescued : Activity := .rescue (.suspended (.next (.report checked) .fail)) (.report checked)

/-- Within the section only the file receives the message, and afterwards both outputs do. -/
theorem deliver_of_trace_rescued :
    ((Log.silent.configure consoleAndFile).after [.enter]).deliver "12:00" checked =
      (consoleAndFile.outputs.drop 1).map (written checked "12:00" none) ∧
    ((Log.silent.configure consoleAndFile).after [.enter, .record checked, .leave]).deliver
        "12:00" checked =
      consoleAndFile.outputs.map (written checked "12:00" none) := by
  have within : rescued.trace =
      [.enter] ++ .record checked :: [.leave, .record checked] := rfl
  have behind : rescued.trace =
      [.enter, .record checked, .leave] ++ .record checked :: [] := rfl
  exact ⟨(deliver_of_trace rfl consoleAndFile within "12:00").2 (.inr ⟨[], [], rfl⟩),
    (deliver_of_trace rfl consoleAndFile behind "12:00").2 (.inl rfl)⟩

/-- An output that asks for more than the log has. -/
def fineOutput : LoggingSettings where
  outputs := [{ format := .json, level := some .debug }]

def detail : Message where
  level := .debug
  text := "trace"

/-- A message within a section from which an inner one has been left. -/
def lateInSection : Activity := .suspended (.next (.suspended .idle) (.report checked))

/-- The level of an output alone does not decide: a message that has it is dropped if it lacks that
of the log. Nor does it decide whether a section is open: once an inner section has been left, the
console receives what is logged in the outer one. -/
theorem level_of_log_decides :
    ((Activity.report detail).trace = [] ++ .record detail :: [] ∧ openSections [] = 0 ∧
      (∀ output ∈ fineOutput.outputs,
        (output.level.getD fineOutput.level).rank ≤ detail.level.rank) ∧
      ((Log.silent.configure fineOutput).after []).deliver "12:00" detail = []) ∧
    (lateInSection.trace = [.enter, .enter, .leave] ++ .record checked :: [.leave] ∧
      openSections [.enter, .enter, .leave] = 1 ∧
      ((Log.silent.configure consoleAndFile).after [.enter, .enter, .leave]).deliver "12:00"
        checked = consoleAndFile.outputs.map (written checked "12:00" none)) := by
  refine ⟨⟨rfl, rfl, ?_, rfl⟩, rfl, rfl, rfl⟩
  decide

end SpecLint.Report
