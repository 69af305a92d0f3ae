/-!
# Lossy UTF-8 decoding

Every byte sequence has a text. Well-formed sequences decode to their character; each maximal
beginning of a sequence that cannot be completed decodes to one replacement character. The decoder
reads one byte at a time and carries the sequence it is in the middle of, so it is total by
recursion on the bytes.
-/
namespace SpecLint.Text

/-- The character that stands for bytes that do not form a character. -/
def replacement : Char := '\uFFFD'

/-- A sequence that has been opened and still misses bytes. The next byte has to lie between `low`
and `high`; the bounds exclude overlong forms, surrogates and code points past the last one. -/
structure OpenSequence where
  missing : Nat
  low : UInt8
  high : UInt8
  code : Nat
  deriving DecidableEq, Repr

/-- What a byte means where a sequence may start. -/
inductive LeadByte where
  | character (c : Char)
  | opening (sequence : OpenSequence)
  | malformed
  deriving DecidableEq, Repr

def LeadByte.ofByte (b : UInt8) : LeadByte :=
  if b < 0x80 then .character (Char.ofNat b.toNat)
  else if b < 0xC2 then .malformed
  else if b < 0xE0 then .opening ⟨1, 0x80, 0xBF, b.toNat % 32⟩
  else if b < 0xF0 then
    let low := if b = 0xE0 then 0xA0 else 0x80
    let high := if b = 0xED then 0x9F else 0xBF
    .opening ⟨2, low, high, b.toNat % 16⟩
  else if b < 0xF5 then
    let low := if b = 0xF0 then 0x90 else 0x80
    let high := if b = 0xF4 then 0x8F else 0xBF
    .opening ⟨3, low, high, b.toNat % 8⟩
  else .malformed

/-- Read a byte outside any sequence. -/
def decodeLead (b : UInt8) : List Char × Option OpenSequence :=
  match LeadByte.ofByte b with
  | .character c => ([c], none)
  | .opening sequence => ([], some sequence)
  | .malformed => ([replacement], none)

/-- Read a byte: it completes or continues the open sequence, or abandons it and starts afresh. -/
def decodeByte : Option OpenSequence → UInt8 → List Char × Option OpenSequence
  | none, b => decodeLead b
  | some sequence, b =>
    if sequence.low ≤ b ∧ b ≤ sequence.high then
      let code := sequence.code * 64 + b.toNat % 64
      if sequence.missing ≤ 1 then ([Char.ofNat code], none)
      else ([], some ⟨sequence.missing - 1, 0x80, 0xBF, code⟩)
    else
      let (decoded, next) := decodeLead b
      (replacement :: decoded, next)

def decodeFrom : Option OpenSequence → List UInt8 → List Char
  | none, [] => []
  | some _, [] => [replacement]
  | pending, b :: rest =>
    let (decoded, next) := decodeByte pending b
    decoded ++ decodeFrom next rest

/-- The text of a byte sequence. -/
def decode (bytes : ByteArray) : String :=
  String.ofList (decodeFrom none bytes.data.toList)

example : decodeFrom none [0xED, 0xA0, 0x80] = [replacement, replacement, replacement] := by decide
example : decodeFrom none [0xE2, 0x82, 0xAC] = ['€'] := by decide
example : decodeFrom none [0xF0, 0x9F, 0x98, 0x27] = [replacement, '\''] := by decide

end SpecLint.Text
