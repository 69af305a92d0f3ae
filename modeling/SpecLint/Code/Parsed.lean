import SpecLint.Code.Reading
import SpecLint.Path.Layout
import SpecLint.Report.Event
import SpecLint.Report.Failure

/-!
# Parsed files

The grammar is a parameter: a function from bytes to a concrete tree, which may be unavailable.
Parsing never fails on malformed text, it only counts the errors the grammar found.
-/
namespace SpecLint.Code

open SpecLint.Report

/-- A grammar gives every byte sequence a concrete tree. -/
abbrev Grammar := ByteArray → Concrete

/-- The grammar of this process, or the reason why there is none. -/
inductive Installation where
  | available (grammar : Grammar)
  | broken (reason : String)

/-- The grammar, or the failure to report. -/
def Installation.grammar : Installation → Except Failure Grammar
  | available grammar => .ok grammar
  | broken reason => .error (.grammarMissing "ruby" reason)

structure Parsed where
  path : Path
  text : String
  /-- A program. -/
  root : Node
  errorCount : Nat
  totalNodes : Nat

namespace Parsed

def hasErrors (parsed : Parsed) : Bool := parsed.errorCount > 0

/-- Parse bytes under a path, which is only recorded. -/
def ofBytes (grammar : Grammar) (path : Path) (bytes : ByteArray) : Parsed :=
  let tree := grammar bytes
  let source := Source.ofBytes bytes
  ⟨path, Text.decode bytes, programOf source tree, tree.errors, tree.count⟩

/-- Parse a text. -/
def ofText (grammar : Grammar) (path : Path) (text : String) : Parsed :=
  ofBytes grammar path text.toUTF8

/-- What parsing reports: the number of errors, if there are any. -/
def events (parsed : Parsed) : List Event :=
  if parsed.hasErrors then [.syntaxErrors parsed.path.toString parsed.errorCount] else []

/-- The path under which a text without a file is recorded. -/
def inlinePath : Path := Path.ofString "(string).rb"

/-- Parse a Ruby file; other files are refused by their name. -/
def ofFile (installation : Installation) (path : Path) (bytes : ByteArray) :
    Except Failure Parsed :=
  if path.suffix = Layout.rubySuffix then
    installation.grammar.map fun grammar => ofBytes grammar path bytes
  else .error (.notRuby path.toString)

theorem ofFile_path {installation : Installation} {path : Path} {bytes : ByteArray}
    {parsed : Parsed} (result : ofFile installation path bytes = .ok parsed) :
    parsed.path = path := by
  simp only [ofFile] at result
  split at result
  · cases installation with
    | available grammar =>
      simp only [Installation.grammar, Except.map, Except.ok.injEq] at result
      subst result
      rfl
    | broken reason => simp [Installation.grammar, Except.map] at result
  · simp at result

end Parsed

end SpecLint.Code
