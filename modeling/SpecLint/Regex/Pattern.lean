import SpecLint.Regex.Search

/-!
# Patterns as written

A pattern keeps the text it was written as, together with its meaning. Only a text that reads as a
pattern becomes one.
-/
namespace SpecLint

/-- Why a text is no pattern. -/
inductive PatternFault where
  | malformed (reason : String)
  /-- The pattern asks for two kinds of characters at once. -/
  | mixedTypes
  /-- A repetition count is beyond all limits. -/
  | hugeCount
  deriving DecidableEq, Repr

def PatternFault.reason : PatternFault → String
  | malformed reason => reason
  | mixedTypes => Regex.Cause.mixedTypes.message
  | hugeCount => Regex.Cause.hugeCount.message

def Regex.Fault.kept (written : List Char) (fault : Fault) : PatternFault :=
  match fault.cause with
  | .mixedTypes => .mixedTypes
  | .hugeCount => .hugeCount
  | _ => .malformed (fault.message written)

structure Pattern where
  written : String
  regex : Regex
  /-- The meaning is what the text reads as. -/
  read_eq : Regex.read written.toList = .ok regex

namespace Pattern

def ofString (written : String) : Except PatternFault Pattern :=
  match read : Regex.read written.toList with
  | .ok regex => .ok ⟨written, regex, read⟩
  | .error fault => .error (fault.kept written.toList)

/-- Whether the pattern matches somewhere in the text. -/
def occursIn (pattern : Pattern) (text : String) : Bool :=
  Regex.found (fun _ => .zero) pattern.regex text.toList

theorem written_ofString {written : String} {pattern : Pattern}
    (made : ofString written = .ok pattern) : pattern.written = written := by
  simp only [ofString] at made
  split at made
  · simp only [Except.ok.injEq] at made
    rw [← made]
  · simp at made

/-- Whether a text becomes a pattern depends only on whether it reads. -/
theorem ofString_isOk (written : String) :
    (ofString written).isOk = (Regex.read written.toList).isOk := by
  simp only [ofString]
  split <;> simp_all [Except.isOk, Except.toBool]

end Pattern

end SpecLint
