import SpecLint.Report.Event

/-!
# Progress

A long loop shows a bar while it runs, provided that there is a terminal, the number of steps is
known and large enough, or a bar is asked for. While the bar is shown the console outputs of the log
are suspended. Otherwise the start and the end of a loop with a description are reported as events.
-/
namespace SpecLint.Report

/-- What a loop says about itself. -/
structure Progress where
  description : String := ""
  total : Option Int := none
  unit : String := "files"
  /-- Whether a bar is asked for however few steps there are. -/
  force : Bool := false

/-- How a loop is shown. -/
inductive Display where
  | bar (description : String) (total : Int) (unit : String)
  | announced (description : String) (total : Int)
  | hidden
  deriving DecidableEq, Repr

namespace Progress

/-- Loops with no more steps than this show no bar of themselves. -/
def threshold : Int := 100

/-- How a loop is shown. -/
def display (progress : Progress) (terminal : Bool) : Display :=
  match progress.total with
  | none => .hidden
  | some total =>
    if terminal ∧ (progress.force ∨ total > threshold) then
      .bar (if progress.description = "" then "Processing" else progress.description) total
        progress.unit
    else if progress.description ≠ "" ∧ total ≠ 0 then .announced progress.description total
    else .hidden

theorem display_no_terminal (progress : Progress) (description unit : String) (total : Int) :
    progress.display false ≠ .bar description total unit := by
  simp only [display]
  split
  · simp
  · split
    · simp_all
    · split <;> simp

end Progress

namespace Display

/-- What is reported before the first step. -/
def started : Display → List Event
  | announced description total => [.progressStarted description total]
  | _ => []

/-- What is reported after the last step, if the loop gets there. -/
def done : Display → List Event
  | announced description total => [.progressDone description total]
  | _ => []

/-- Whether the console outputs are suspended during a step. -/
def suspends : Display → Bool
  | bar .. => true
  | _ => false

end Display

/-- A loop as it was observed from outside. -/
structure Passage where
  /-- The steps begun. -/
  seen : Nat
  /-- Whether the loop was left after its last step and not within one. -/
  finished : Bool
  deriving DecidableEq, Repr

namespace Passage

/-- A loop over `count` steps, left within the step that reaches `limit`. -/
def ofCount (count : Nat) (limit : Option Nat) : Passage :=
  match limit with
  | some limit => if count = 0 ∨ count < limit then ⟨count, true⟩ else ⟨max limit 1, false⟩
  | none => ⟨count, true⟩

/-- The steps completed: the one in which a loop is left is not. -/
def advanced (passage : Passage) : Nat :=
  if passage.finished then passage.seen else passage.seen - 1

/-- The events of a passage. -/
def events (passage : Passage) (display : Display) : List Event :=
  display.started ++ if passage.finished then display.done else []

end Passage

end SpecLint.Report
