import SpecLint.Number.Arithmetic
import SpecLint.Text.Base64
import SpecLint.Yaml.Tag

/-!
# What scalars mean

The tag of a scalar says how its text is read, whether it has the form that gives a plain scalar
this tag or not. A text that its tag cannot read is a misfit; only bytes are malformed instead.
-/
namespace SpecLint.Yaml

open SpecLint.Data SpecLint.Number SpecLint.Text

def malformed {α : Type} (cause : Cause) : Except Fault α := .error (.malformed cause 0)

/-- A value, or a misfit where there is none. -/
def orMisfit {α : Type} (misfit : Misfit) : Option α → Except Fault α
  | some value => .ok value
  | none => .error (.unfit misfit)

/-- Remove the signs that group digits. -/
def ungrouped (text : List Char) : List Char := text.filter (· ≠ '_')

/-- A whole number in a base. -/
def wholeIn (base : Nat) (digits : List Char) : Except Fault Int :=
  orMisfit .noSuchValue (readWhole? base digits)

/-- A whole number that starts with a zero is binary, hexadecimal or octal; one with colons is in
base sixty. -/
def wholeMeaning (text : List Char) : Except Fault Int := do
  let (negative, body) := splitSign (ungrouped text)
  let size ← match body with
    | [] => .error (.unfit .emptyNumber)
    | '0' :: 'b' :: digits => wholeIn 2 digits
    | '0' :: 'x' :: digits => wholeIn 16 digits
    | '0' :: digits => wholeIn 8 ('0' :: digits)
    | digits => do
      let parts ← (splitOn ':' digits).mapM (wholeIn 10)
      pure (parts.foldl (fun total part => total * 60 + part) 0)
  return if negative then -size else size

def fractionOf (text : List Char) : Except Fault Binary64 :=
  orMisfit .noSuchValue (readBinary64? text)

/-- The sum of the places of base sixty, the last one first. The first counts `weight` times, and
every step is rounded. -/
def sixtieths (weight : Nat) (total : Binary64) : List Binary64 → Except Fault Binary64
  | [] => .ok total
  | part :: parts => do
    let factor ← orMisfit .outOfRange (Binary64.ofNat? weight)
    sixtieths (weight * 60) (total.add (part.mul factor)) parts

/-- A fraction, in base sixty if it has colons. -/
def fractionMeaning (text : List Char) : Except Fault Binary64 := do
  let written := (ungrouped text).map Char.toLower
  let (negative, body) := splitSign written
  let size ←
    if written = [] then .error (.unfit .emptyNumber)
    else if body = ".inf".toList then pure (.infinite false)
    else if body = ".nan".toList then pure .undefined
    else if body.contains ':' then do
      let parts ← (splitOn ':' body).mapM fractionOf
      sixtieths 1 (.finite false 0 0) parts.reverse
    else fractionOf body
  return if negative then size.neg else size

/-- Truth values are words in any case. -/
def truthMeaning (text : List Char) : Except Fault Bool :=
  let word := String.ofList (text.map Char.toLower)
  if trueWords.contains word then .ok true
  else if falseWords.contains word then .ok false
  else .error (.unfit .unknownWord)

def momentMeaning (text : List Char) : Except Fault Scalar :=
  match Timestamp.ofText? (withoutLineEnd text) with
  | some timestamp => timestamp.toScalar
  | none => .error (.unfit .noMoment)

def bytesMeaning (text : List Char) : Except Fault (List UInt8) :=
  if text.all (·.toNat < 128) then
    match Base64.read? text with
    | some bytes => .ok bytes
    | none => malformed .badBytes
  else malformed .badBytes

/-- The meaning of a scalar. -/
def Tag.meaning (tag : Tag) (text : String) : Except Fault Scalar :=
  match tag with
  | .null => .ok .null
  | .truth => (truthMeaning text.toList).map .bool
  | .whole => (wholeMeaning text.toList).map .int
  | .fraction => (fractionMeaning text.toList).map .float
  | .bytes => (bytesMeaning text.toList).map .bytes
  | .moment => momentMeaning text.toList
  | .text => .ok (.text text)
  | _ => malformed .unknownTag

end SpecLint.Yaml
