import SpecLint.Text.Utf8

/-!
# Source bytes and locations

A location counts lines from one and columns in bytes from zero. The bytes of a source come with the
offsets at which its lines start, so the line of an offset is the number of starts up to it.
-/
namespace SpecLint.Code

structure Location where
  line : Nat
  column : Nat
  endLine : Nat
  endColumn : Nat
  deriving DecidableEq, Repr

/-- The offsets after each line feed, where the bytes start at `offset`. -/
def lineStartsFrom (offset : Nat) : List UInt8 → List Nat
  | [] => []
  | b :: rest =>
    if b = 10 then (offset + 1) :: lineStartsFrom (offset + 1) rest
    else lineStartsFrom (offset + 1) rest

/-- The bytes of a file together with the starts of all lines but the first. -/
structure Source where
  bytes : ByteArray
  lineStarts : List Nat
  starts_eq : lineStarts = lineStartsFrom 0 bytes.data.toList

namespace Source

def ofBytes (bytes : ByteArray) : Source := ⟨bytes, lineStartsFrom 0 bytes.data.toList, rfl⟩

/-- The number of line feeds before an offset, and the bytes since the last of them. -/
def point (source : Source) (offset : Nat) : Nat × Nat :=
  let passed := source.lineStarts.takeWhile (· ≤ offset)
  (passed.length, offset - passed.getLast?.getD 0)

def locate (source : Source) (start stop : Nat) : Location :=
  let (line, column) := source.point start
  let (endLine, endColumn) := source.point stop
  ⟨line + 1, column, endLine + 1, endColumn⟩

/-- The text between two offsets. -/
def text (source : Source) (start stop : Nat) : String :=
  Text.decode (source.bytes.extract start stop)

end Source

end SpecLint.Code
