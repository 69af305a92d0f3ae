/-!
# Base64

Four signs write three bytes. The reader passes over signs that are none of the sixty-four, and
stops at padding that completes a group of four.
-/
namespace SpecLint.Text.Base64

/-- The six bits that a sign writes. -/
def sextet? (c : Char) : Option Nat :=
  if 'A' ≤ c ∧ c ≤ 'Z' then some (c.toNat - 65)
  else if 'a' ≤ c ∧ c ≤ 'z' then some (c.toNat - 71)
  else if '0' ≤ c ∧ c ≤ '9' then some (c.toNat + 4)
  else if c = '+' then some 62
  else if c = '/' then some 63
  else none

/-- The signs of a group that is not yet complete: how many, the bits of the last one that are not
yet in a byte, and the padding after it. -/
structure Partial where
  signs : Nat
  left : Nat
  padding : Nat
  deriving DecidableEq, Repr

/-- One more sign: the byte it completes, and what is left. -/
def Partial.step (group : Partial) (bits : Nat) : List UInt8 × Partial :=
  match group.signs with
  | 0 => ([], ⟨1, bits, 0⟩)
  | 1 => ([UInt8.ofNat (group.left * 4 + bits / 16)], ⟨2, bits % 16, 0⟩)
  | 2 => ([UInt8.ofNat (group.left * 16 + bits / 4)], ⟨3, bits % 4, 0⟩)
  | _ => ([UInt8.ofNat (group.left * 64 + bits)], ⟨0, 0, 0⟩)

/-- Read on within a group; a group that is never completed is a fault. -/
def readFrom (group : Partial) : List Char → Option (List UInt8)
  | [] => if group.signs = 0 then some [] else none
  | c :: rest =>
    if c = '=' then
      if 2 ≤ group.signs ∧ 4 ≤ group.signs + group.padding + 1 then some []
      else if 2 ≤ group.signs then readFrom { group with padding := group.padding + 1 } rest
      else readFrom group rest
    else match sextet? c with
      | none => readFrom group rest
      | some bits =>
        let (bytes, next) := group.step bits
        (readFrom next rest).map (bytes ++ ·)

/-- The bytes that a text writes. -/
def read? (text : List Char) : Option (List UInt8) := readFrom ⟨0, 0, 0⟩ text

example : read? "aGk=\n".toList = some [104, 105] := by decide +kernel

example : read? "aGk".toList = none := by decide +kernel

end SpecLint.Text.Base64
