import SpecLint.Number.Binary64

/-!
# Settings data

Configuration files, environment variables and overrides all deliver the same kind of data before
it is validated: scalars, lists and mappings. A mapping is a list of entries in insertion order
with distinct keys; writing to a present key keeps its place. Numbers and truth values that are
equal as numbers are the same key. Files may also hold pairs and sets, and collections that contain
themselves.
-/
namespace SpecLint.Data

open SpecLint.Number

/-- A time of a day, to the microsecond. -/
structure Moment where
  year : Nat
  month : Nat
  day : Nat
  hour : Nat
  minute : Nat
  second : Nat
  microsecond : Nat
  /-- The minutes by which local time is ahead of universal time, if that is known. -/
  zone : Option Int
  deriving DecidableEq, Repr

inductive Scalar where
  | null
  | bool (value : Bool)
  | int (value : Int)
  | float (value : Binary64)
  | date (year month day : Nat)
  | moment (moment : Moment)
  | bytes (value : List UInt8)
  | text (value : String)
  deriving DecidableEq, Repr

/-- The form under which equal keys coincide. -/
def Scalar.key : Scalar → Scalar
  | .bool value => .int (if value then 1 else 0)
  | .float value => match value.toInt? with
    | some whole => .int whole
    | none => .float value
  | other => other

def Scalar.same (left right : Scalar) : Bool := left.key == right.key

theorem Scalar.same_refl (key : Scalar) : key.same key = true := by simp [Scalar.same]

theorem Scalar.same_text (left right : String) :
    (Scalar.text left).same (.text right) = (left == right) := by
  rw [Bool.eq_iff_iff]
  simp [Scalar.same, Scalar.key]

inductive Value where
  | scalar (value : Scalar)
  | list (items : List Value)
  | map (entries : List (Scalar × Value))
  /-- A few values in fixed places. -/
  | tuple (items : List Value)
  | set (items : List Scalar)
  /-- A collection that contains itself, with a number to know it by. Where it occurs again inside,
  it has the same number; below the depth that matters it is left empty there. -/
  | looped (number : Nat) (value : Value)
  deriving Repr

instance : Inhabited Value := ⟨.scalar .null⟩

namespace Value

@[match_pattern] def null : Value := .scalar .null
@[match_pattern] def bool (value : Bool) : Value := .scalar (.bool value)
@[match_pattern] def int (value : Int) : Value := .scalar (.int value)
@[match_pattern] def float (value : Binary64) : Value := .scalar (.float value)
@[match_pattern] def text (value : String) : Value := .scalar (.text value)

def nat (value : Nat) : Value := .int value

/-- The collection itself, without the number it is known by. -/
def bare : Value → Value
  | looped _ value => value.bare
  | other => other

def isMap (value : Value) : Bool :=
  match value.bare with
  | map _ => true
  | _ => false

/-- Null, false, zero and whatever is empty. -/
def isNothing : Value → Bool
  | .scalar .null | .scalar (.bool false) | .scalar (.int 0) | .scalar (.text "") => true
  | .scalar (.bytes bytes) => bytes.isEmpty
  | .scalar (.float value) => value.toInt? = some 0
  | .list items | .tuple items => items.isEmpty
  | .set items => items.isEmpty
  | .map entries => entries.isEmpty
  | _ => false

/-- A mapping with text keys. -/
def record (entries : List (String × Value)) : Value :=
  .map (entries.map fun entry => (.text entry.1, entry.2))

/-- A value that may be absent. -/
def optional {α : Type} (write : α → Value) : Option α → Value
  | some value => write value
  | none => .null

end Value

/-- The entries of a mapping. -/
abbrev Entries := List (Scalar × Value)

/-- The entries of a value; none if it is no mapping. -/
def Value.entries (value : Value) : Entries :=
  match value.bare with
  | .map entries => entries
  | _ => []

theorem Value.entries_of_not_isMap {value : Value} (single : value.isMap = false) :
    value.entries = [] := by
  unfold isMap at single
  unfold entries
  cases shape : value.bare with
  | map inside => simp [shape] at single
  | _ => rfl

namespace Entries

def get? (entries : Entries) (key : Scalar) : Option Value :=
  (entries.find? fun entry => entry.1.same key).map (·.2)

/-- Write `value` under `key`: a present key keeps its place, a new one goes to the end. -/
def put (key : Scalar) (value : Value) : Entries → Entries
  | [] => [(key, value)]
  | (first, old) :: rest =>
    if first.same key then (first, value) :: rest else (first, old) :: put key value rest

def getText? (entries : Entries) (key : String) : Option Value := get? entries (.text key)

theorem get?_put_self (entries : Entries) (key : Scalar) (value : Value) :
    get? (put key value entries) key = some value := by
  induction entries with
  | nil => simp [put, get?, Scalar.same_refl]
  | cons entry rest ih =>
    obtain ⟨first, old⟩ := entry
    simp only [put]
    split
    next same => simp [get?, same]
    next other =>
      simp only [Bool.not_eq_true] at other
      simpa [get?, other] using ih

theorem get?_put_other (entries : Entries) (key other : Scalar) (value : Value)
    (distinct : key.same other = false) :
    get? (put key value entries) other = get? entries other := by
  induction entries with
  | nil => simp [put, get?, distinct]
  | cons entry rest ih =>
    obtain ⟨first, old⟩ := entry
    simp only [put]
    split
    next same =>
      have apart : first.same other = false := by
        simp only [Scalar.same, beq_iff_eq] at same distinct ⊢
        rw [same]; exact distinct
      simp [get?, apart]
    next =>
      simp only [get?, List.find?_cons] at ih ⊢
      split <;> simp_all

/-- Writing to a present key keeps all keys and their order. -/
theorem keys_put_present (entries : Entries) (key : Scalar) (value : Value)
    (present : (get? entries key).isSome) :
    (put key value entries).map (·.1) = entries.map (·.1) := by
  induction entries with
  | nil => simp [get?] at present
  | cons entry rest ih =>
    obtain ⟨first, old⟩ := entry
    simp only [put]
    split
    next => rfl
    next other =>
      simp only [Bool.not_eq_true] at other
      simp only [get?, List.find?_cons, other] at present
      simp [ih present]

end Entries

end SpecLint.Data
