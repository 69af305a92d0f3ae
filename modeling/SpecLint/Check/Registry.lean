import SpecLint.Check.Rules

/-!
# The registry of checks

Checks are registered under an id; registering an id again replaces its check and keeps its place.
A check names the settings section of its options and may have no runner yet, in which case it finds
nothing.
-/
namespace SpecLint.Check

structure RegisteredCheck where
  id : String
  name : String
  «section» : String
  description : String
  runner : Option (Context → Study (List Diagnostic))

/-- One of the three checks as registered. -/
def CheckKind.registered (kind : CheckKind) : RegisteredCheck :=
  ⟨kind.id, kind.title, kind.section, kind.description, some kind.rule⟩

inductive RegistryFault where
  | unknownCheck
  /-- The check names a section without an on-off option. -/
  | unknownSection
  deriving DecidableEq, Repr

/-- Whether the check is switched on. -/
def RegisteredCheck.isEnabled (settings : Settings) (check : RegisteredCheck) :
    Except RegistryFault Bool :=
  match CheckKind.ofSection? check.section with
  | some kind => .ok (kind.isEnabled settings)
  | none => .error .unknownSection

/-- Run the check; without a runner it finds nothing. -/
def RegisteredCheck.run (context : Context) (check : RegisteredCheck) : Study (List Diagnostic) :=
  match check.runner with
  | some runner => runner context
  | none => return []

abbrev Registry := List RegisteredCheck

namespace Registry

def empty : Registry := []

/-- The registry of the program. -/
def standard : Registry := CheckKind.all.map CheckKind.registered

def register (check : RegisteredCheck) : Registry → Registry
  | [] => [check]
  | first :: rest =>
    if first.id = check.id then check :: rest else first :: register check rest

def get? (registry : Registry) (id : String) : Option RegisteredCheck := registry.find? (·.id == id)

def ids (registry : Registry) : List String := registry.map (·.id)

/-- The checks that are switched on, in the order of their registration. -/
def enabled (settings : Settings) : Registry → Except RegistryFault (List RegisteredCheck)
  | [] => .ok []
  | check :: rest => do
    let on ← check.isEnabled settings
    let others ← enabled settings rest
    return if on then check :: others else others

theorem get?_register_self (registry : Registry) (check : RegisteredCheck) :
    (register check registry).get? check.id = some check := by
  induction registry with
  | nil => simp [register, get?]
  | cons first rest ih =>
    simp only [register]
    split
    · simp [get?]
    next other => simpa [get?, other] using ih

/-- Registering a known id keeps the order. -/
theorem ids_register_known (registry : Registry) (check : RegisteredCheck)
    (known : check.id ∈ registry.ids) : (register check registry).ids = registry.ids := by
  induction registry with
  | nil => simp [ids] at known
  | cons first rest ih =>
    simp only [register]
    split
    next same => simp [ids, same]
    next other =>
      simp only [ids, List.map_cons, List.mem_cons] at known ih ⊢
      rcases known with same | later
      · exact absurd same.symm other
      · rw [ih later]

end Registry

end SpecLint.Check
