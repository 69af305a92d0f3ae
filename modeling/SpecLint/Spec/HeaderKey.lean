import SpecLint.Routine.Basic
import SpecLint.Report.Event
import SpecLint.Text.Blank

/-!
# Header keys and aliases

A header key names a routine the way spec headers do: a sigil for the scope and the name. Reading a
key ignores blanks around it. An alias table lists further keys under which a routine may be
documented; it is looked up by the routine's own key only.
-/
namespace SpecLint

open SpecLint.Data SpecLint.Report

structure HeaderKey where
  scope : Scope
  name : List Char
  deriving DecidableEq, Repr

namespace HeaderKey

/-- Read a key: a sigil and at least one more character. -/
def ofChars? (written : List Char) : Option HeaderKey :=
  match Text.trim written with
  | sigil :: c :: name => (Scope.ofSigil? sigil).map fun scope => ⟨scope, c :: name⟩
  | _ => none

def ofString? (written : String) : Option HeaderKey := ofChars? written.toList

def chars (key : HeaderKey) : List Char := key.scope.sigil :: key.name

def toString (key : HeaderKey) : String := String.ofList key.chars

/-- The same name in the other scope. -/
def opposite (key : HeaderKey) : HeaderKey := ⟨key.scope.opposite, key.name⟩

def toValue (key : HeaderKey) : Value :=
  .record [("scope", .text key.scope.name), ("name", .text (String.ofList key.name)),
    ("text", .text key.toString), ("opposite", .text key.opposite.toString)]

theorem opposite_opposite (key : HeaderKey) : key.opposite.opposite = key := by
  simp [opposite, Scope.opposite_opposite]

theorem chars_injective {left right : HeaderKey} (same : left.chars = right.chars) :
    left = right := by
  obtain ⟨scope, name⟩ := left
  obtain ⟨other, written⟩ := right
  simp only [chars, List.cons.injEq] at same
  cases scope <;> cases other <;> simp_all [Scope.sigil]

end HeaderKey

/-- The key of a routine. -/
def Routine.headerKey (routine : Routine) : HeaderKey := ⟨routine.scope, routine.name.toList⟩

/-- Aliases by header key, in the order given. -/
structure AliasTable where
  entries : List (String × List String)

namespace AliasTable

def empty : AliasTable := ⟨[]⟩

/-- The aliases written for a key. -/
def written (table : AliasTable) (key : String) : List String :=
  (table.entries.lookup key).getD []

/-- The aliases of a key that read as keys. -/
def aliases (table : AliasTable) (key : String) : List HeaderKey :=
  (table.written key).filterMap HeaderKey.ofString?

/-- Aliases that do not read are reported. -/
def events (table : AliasTable) (key : String) : List Event :=
  (table.written key).filterMap fun raw =>
    if (HeaderKey.ofString? raw).isNone then some (.aliasIgnored key raw) else none

/-- The aliases of a routine and what looking them up reports. -/
def forKey (table : AliasTable) (key : HeaderKey) : List HeaderKey × List Event :=
  (table.aliases key.toString, table.events key.toString)

theorem aliases_empty (key : String) : empty.aliases key = [] := rfl

end AliasTable

/-- The headers that would document a routine: both sigil forms, then the aliases, each once. -/
def expectedHeaders (key : HeaderKey) (table : AliasTable) : List String × List Event :=
  let (aliases, events) := table.forKey key
  let forms : List HeaderKey := [⟨.ofInstance, key.name⟩, ⟨.ofType, key.name⟩] ++ aliases
  let headers := forms.map fun form => "describe '" ++ form.toString ++ "'"
  (headers.foldl (fun seen header => if seen.contains header then seen else seen ++ [header]) [],
    events)

end SpecLint
