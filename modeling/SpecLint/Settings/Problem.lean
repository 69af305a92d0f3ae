import SpecLint.Settings.Basic

/-!
# Problems in settings

Settings data are checked as a whole: every option that cannot be used is a problem of its own, with
the place where it was found, the data found there and a complaint. A result is either sound or has
at least one problem; reading two parts keeps the problems of both, in order.
-/
namespace SpecLint

open SpecLint.Data

/-- The groups in which options come. -/
inductive OptionGroup where
  | all
  | logging
  | logOutput
  | anyCheck
  | fileHasSpec
  | anyMethodCheck
  | publicMethodHasSpec
  | sufficientContexts
  deriving DecidableEq, Repr

/-- How messages call a group. -/
def OptionGroup.title : OptionGroup → String
  | all => "SpecParityConfig"
  | logging => "LoggingConfig"
  | logOutput => "LogOutputConfig"
  | anyCheck => "CheckConfig"
  | fileHasSpec => "FileHasSpecConfig"
  | anyMethodCheck => "MethodCheckConfig"
  | publicMethodHasSpec => "PublicMethodHasSpecConfig"
  | sufficientContexts => "SufficientContextsConfig"

inductive Complaint where
  | noGroup (group : OptionGroup)
  | noMapping
  | noList
  | noText
  /-- Bytes that are not UTF-8. -/
  | undecodableText
  /-- Data of a kind that never stands for a truth value. -/
  | noTruthValue
  /-- A number or text that stands for no truth value. -/
  | unclearTruthValue
  | noLevel
  | noFormat
  | unknownName
  /-- An alias key that does not say to which scope it belongs. -/
  | aliasWithoutSigil (key : String)
  | malformedPattern (written : String) (fault : PatternFault)
  | relativeDestination (written : String)
  /-- A number in an alias is too long to be written. -/
  | tooManyDigits
  | nulInUserName
  | unknownHome
  deriving DecidableEq, Repr

def Complaint.message : Complaint → String
  | noGroup group => "Input should be a valid dictionary or instance of " ++ group.title
  | noMapping => "Input should be a valid dictionary"
  | noList => "Input should be a valid list"
  | noText => "Input should be a valid string"
  | undecodableText =>
    "Input should be a valid string, unable to parse raw data as a unicode string"
  | noTruthValue => "Input should be a valid boolean"
  | unclearTruthValue => "Input should be a valid boolean, unable to interpret input"
  | noLevel => "Input should be 'DEBUG', 'INFO', 'WARNING', 'ERROR' or 'CRITICAL'"
  | noFormat => "Input should be 'json' or 'console'"
  | unknownName => "Extra inputs are not permitted"
  | aliasWithoutSigil key => "Value error, Describe alias key must start with '#' or '.': " ++ key
  | malformedPattern written (.malformed reason) =>
    "Value error, Invalid pattern " ++ String.ofList (Text.quoted written.toList) ++ ": " ++ reason
  | malformedPattern _ fault => "Value error, " ++ fault.reason
  | relativeDestination written =>
    "Value error, File destination must be absolute path: " ++ written
  | tooManyDigits => "Value error, Exceeds the limit (4300 digits) for integer string " ++
    "conversion; use sys.set_int_max_str_digits() to increase the limit"
  | nulInUserName => "Value error, embedded null byte"
  | unknownHome => "Could not determine home directory."

/-- A repetition count beyond all limits and an unknown user are no mere problems: they stop the
reading. -/
def Complaint.isFatal : Complaint → Bool
  | malformedPattern _ .hugeCount | unknownHome => true
  | _ => false

structure Problem where
  /-- The names that lead to the place, outermost first. -/
  place : List String
  input : Value
  complaint : Complaint

/-- What reading settings data comes to. -/
inductive Validated (α : Type) where
  | valid (value : α)
  | invalid (first : Problem) (others : List Problem)

namespace Validated

variable {α β : Type}

def problems : Validated α → List Problem
  | valid _ => []
  | invalid first others => first :: others

def value? : Validated α → Option α
  | valid value => some value
  | invalid _ _ => none

/-- The first problem that stops the reading. -/
def stop? (part : Validated α) : Option Problem :=
  part.problems.find? (·.complaint.isFatal)

/-- A single problem, found right here. -/
def complain (input : Value) (complaint : Complaint) : Validated α :=
  invalid ⟨[], input, complaint⟩ []

def map (change : α → β) : Validated α → Validated β
  | valid value => valid (change value)
  | invalid first others => invalid first others

/-- Read two parts. -/
def both (left : Validated α) (right : Validated β) : Validated (α × β) :=
  match left, right with
  | valid a, valid b => valid (a, b)
  | valid _, invalid first others => invalid first others
  | invalid first others, right => invalid first (others ++ right.problems)

instance : Applicative Validated where
  pure := valid
  seq change part := (both change (part ())).map fun (change, value) => change value

/-- Read every part. -/
def each : List (Validated α) → Validated (List α)
  | [] => valid []
  | part :: parts => (both part (each parts)).map fun (value, values) => value :: values

/-- A part that lies under a name. -/
def under (name : String) : Validated α → Validated α
  | valid value => valid value
  | invalid first others =>
    let moved (problem : Problem) : Problem := { problem with place := name :: problem.place }
    invalid (moved first) (others.map moved)

theorem problems_map (change : α → β) (part : Validated α) :
    (part.map change).problems = part.problems := by
  cases part <;> rfl

theorem problems_both (left : Validated α) (right : Validated β) :
    (both left right).problems = left.problems ++ right.problems := by
  cases left <;> cases right <;> simp [both, problems]

theorem problems_each (parts : List (Validated α)) :
    (each parts).problems = parts.flatMap problems := by
  induction parts with
  | nil => rfl
  | cons part parts ih => simp [each, problems_map, problems_both, ih]

theorem stop?_both (left : Validated α) (right : Validated β) :
    (both left right).stop? = left.stop?.or right.stop? := by
  simp [stop?, problems_both]

/-- Data without problems have a value. -/
theorem value?_isSome_iff (part : Validated α) : part.value?.isSome ↔ part.problems = [] := by
  cases part <;> simp [value?, problems]

/-- A list of parts has a value exactly if every part has one. -/
theorem value?_each_isSome_iff (parts : List (Validated α)) :
    (each parts).value?.isSome ↔ ∀ part ∈ parts, part.value?.isSome := by
  simp only [value?_isSome_iff, problems_each, List.flatMap_eq_nil_iff]

end Validated

end SpecLint
