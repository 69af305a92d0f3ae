import SpecLint.Check.Diagnostic
import SpecLint.Settings.Basic
import SpecLint.Spec.Locator

/-!
# The context of one source file

The checks of one source file share what they have seen of the spec files and which of these belong
to each unit. Nothing is shared between source files.
-/
namespace SpecLint.Check

open SpecLint.Code SpecLint.Spec SpecLint.Report

structure Context where
  project : Project
  parsed : Parsed
  settings : Settings

namespace Context

def path (context : Context) : Path := context.parsed.path

def root (context : Context) : Site := Site.root context.parsed.root

end Context

/-- What the checks of a file have found out so far. -/
structure Knowledge where
  cache : Cache
  located : List (String × Candidates)

namespace Knowledge

def empty : Knowledge := ⟨.empty, []⟩

def events (knowledge : Knowledge) : List Event := knowledge.cache.events

end Knowledge

/-- A computation that looks things up; it fails only on wildcards that no directory can answer. -/
abbrev Study := ExceptT WildcardFault (StateM Knowledge)

/-- Look into the spec files. -/
def Study.ofCache {α : Type} (act : StateM Cache α) : Study α :=
  ExceptT.mk fun knowledge =>
    let (value, cache) := act knowledge.cache
    (.ok value, { knowledge with cache := cache })

def Study.report (events : List Event) : Study PUnit := Study.ofCache (modify (Cache.report events))

/-- Locate the spec files of a unit anew. -/
def locateUnit (context : Context) (unit : Option String) : Study Candidates :=
  ExceptT.mk fun knowledge =>
    let (result, cache) := (locate context.project context.path unit).run knowledge.cache
    (result, { knowledge with cache := cache })

/-- The spec files of a unit, located once. -/
def candidatesFor (context : Context) (unit : String) : Study Candidates := do
  match (← get).located.lookup unit with
  | some known => return known
  | none =>
    let found ← locateUnit context (some unit)
    modify fun knowledge => { knowledge with located := (unit, found) :: knowledge.located }
    return found

end SpecLint.Check
