import SpecLint.Text.Utf8
import Mathlib.Algebra.Group.Nat.Defs

/-!
# Words in encoded text

A part of an encoded text is cut out by byte offsets and decoded again, and the offsets may lie
inside a character. If a plain ASCII word comes out, they did not: such a word can only come from
its own bytes, and its first byte starts a character. So the word stands in the text where the
offsets say.

## Main result

`exists_append_of_decode`
-/
namespace SpecLint.Text

/-- An ASCII character that is no null. -/
def isPlain (c : Char) : Bool := decide (0 < c.toNat) && decide (c.toNat < 128)

/-! ### Sequences of several bytes -/

/-- An open sequence that can only be completed to a character beyond ASCII. -/
structure OpenSequence.Wide (sequence : OpenSequence) : Prop where
  low : 0x80 ≤ sequence.low.toNat
  high : sequence.high.toNat ≤ 0xBF
  code : 128 ≤ (sequence.code * 64 + (sequence.low.toNat - 0x80)) * 64 ^ (sequence.missing - 1)

theorem wide_of_opening {b : UInt8} {sequence : OpenSequence}
    (opens : LeadByte.ofByte b = .opening sequence) : sequence.Wide := by
  unfold LeadByte.ofByte at opens
  have bound := b.toNat_lt
  simp only [UInt8.lt_iff_toNat_lt] at opens
  split at opens
  · cases opens
  · split at opens
    · cases opens
    · split at opens
      · cases opens
        constructor <;> simp_all
        omega
      · split at opens
        · cases opens
          constructor
          · dsimp only; split <;> decide
          · dsimp only; split <;> decide
          · dsimp only
            split <;> simp_all [← UInt8.toNat_inj]
            omega
        · split at opens
          · cases opens
            constructor
            · dsimp only; split <;> decide
            · dsimp only; split <;> decide
            · dsimp only
              split <;> simp_all [← UInt8.toNat_inj]
              omega
          · cases opens

theorem isPlain_ofNat {code : Nat} (wide : 128 ≤ code) : isPlain (Char.ofNat code) = false := by
  by_cases valid : code.isValidChar
  · have same : (Char.ofNat code).toNat = code := by
      rw [Char.ofNat, dif_pos valid]
      rfl
    simp only [isPlain, same, Bool.and_eq_false_iff, decide_eq_false_iff_not]
    omega
  · have null : (Char.ofNat code).toNat = 0 := by
      rw [Char.ofNat, dif_neg valid]
      rfl
    simp [isPlain, null]

/-- Whatever follows an opened sequence, no plain character comes out first. -/
theorem decodeFrom_wide {sequence : OpenSequence} (wide : sequence.Wide) (bytes : List UInt8) :
    ∃ c rest, decodeFrom (some sequence) bytes = c :: rest ∧ isPlain c = false := by
  -- an open sequence stays wide until it is completed or broken off
  induction bytes generalizing sequence with
  | nil => exact ⟨replacement, [], rfl, by decide⟩
  | cons b bytes ih =>
    simp only [decodeFrom, decodeByte]
    split
    next inRange =>
      obtain ⟨low, high, code⟩ := wide
      simp only [UInt8.le_iff_toNat_le] at inRange
      have longer : sequence.code * 64 + (sequence.low.toNat - 0x80) ≤
          sequence.code * 64 + b.toNat % 64 := by omega
      split
      next last =>
        -- this was the last byte that was missing
        have power : sequence.missing - 1 = 0 := by omega
        rw [power, Nat.pow_zero, Nat.mul_one] at code
        exact ⟨_, _, rfl, isPlain_ofNat (Nat.le_trans code longer)⟩
      next more =>
        apply ih
        refine ⟨Nat.le_refl _, Nat.le_refl _, ?_⟩
        -- one byte fewer is missing, and its share of the code is there
        have power : sequence.missing - 1 = (sequence.missing - 1 - 1) + 1 := by omega
        rw [power, Nat.pow_succ, Nat.mul_comm (64 ^ _), ← Nat.mul_assoc] at code
        refine Nat.le_trans code (Nat.mul_le_mul_right _ ?_)
        simp
        omega
    next => exact ⟨replacement, _, rfl, by decide⟩

/-! ### Plain words -/

/-- A plain word comes out of its own bytes only. -/
theorem eq_of_decodeFrom {bytes : List UInt8} {word : List Char}
    (plain : ∀ c ∈ word, isPlain c = true) (decoded : decodeFrom none bytes = word) :
    bytes = word.map fun c => c.val.toUInt8 := by
  induction bytes generalizing word with
  | nil =>
    subst decoded
    rfl
  | cons b bytes ih =>
    cases lead : LeadByte.ofByte b with
    | character c =>
      simp only [decodeFrom, decodeByte, decodeLead, lead, List.cons_append, List.nil_append]
        at decoded
      subst decoded
      have small : b < 0x80 := by
        unfold LeadByte.ofByte at lead
        repeat' split at lead
        all_goals first | assumption | cases lead
      have same : c.val.toUInt8 = b := by
        have shown : Char.ofNat b.toNat = c := by simpa [LeadByte.ofByte, small] using lead
        have valid : b.toNat.isValidChar := .inl (by have := b.toNat_lt; omega)
        rw [← shown, Char.ofNat, dif_pos valid, ← UInt8.toNat_inj, UInt32.toNat_toUInt8]
        exact Nat.mod_eq_of_lt b.toNat_lt
      rw [List.map_cons, same, ← ih (fun c member => plain c (by simp [member])) rfl]
    | opening sequence =>
      simp only [decodeFrom, decodeByte, decodeLead, lead, List.nil_append] at decoded
      -- an opened sequence would put a character into the word that is not plain
      obtain ⟨c, rest, found, unplain⟩ := decodeFrom_wide (wide_of_opening lead) bytes
      rw [found] at decoded
      subst decoded
      simp [plain c] at unplain
    | malformed =>
      simp only [decodeFrom, decodeByte, decodeLead, lead, List.cons_append] at decoded
      subst decoded
      have impossible := plain replacement (by simp)
      simp [isPlain, replacement] at impossible

/-- The encoding of a plain word is the word byte by byte. -/
theorem utf8Encode_of_plain {word : List Char} (plain : ∀ c ∈ word, isPlain c = true) :
    word.utf8Encode.data.toList = word.map fun c => c.val.toUInt8 := by
  have single : ∀ c ∈ word, String.utf8EncodeChar c = [c.val.toUInt8] := by
    intro c member
    have small := plain c member
    simp only [isPlain, Bool.and_eq_true, decide_eq_true_eq] at small
    apply String.utf8EncodeChar_eq_singleton
    have bound : c.val ≤ 0x7F := UInt32.le_iff_toNat_le.mpr (Nat.le_of_lt_succ small.2)
    simp [Char.utf8Size, bound]
  rw [List.utf8Encode, List.toList_data_toByteArray, List.map_eq_flatMap]
  simp only [List.flatMap_def]
  exact congrArg List.flatten (List.map_congr_left single)

/-- The first byte of an encoded word starts a character. -/
theorem isFirstByte_of_eq_utf8Encode {bytes : ByteArray} {c : Char} {word : List Char}
    (encoded : bytes = (c :: word).utf8Encode) :
    ∃ inside : 0 < bytes.size, (bytes[0]).IsUTF8FirstByte := by
  rw [List.utf8Encode_cons, List.utf8Encode_singleton] at encoded
  subst encoded
  have size := c.utf8Size_pos
  refine ⟨by simp; omega, ?_⟩
  exact ByteArray.isUTF8FirstByte_getElem_zero_utf8EncodeChar_append

/-- A word stands in a text where its bytes do. -/
theorem exists_append_of_extract {text : String} {start stop : Nat} {word : List Char}
    (nonempty : word ≠ [])
    (slice : text.toByteArray.extract start stop = word.utf8Encode) :
    ∃ front tail : List Char, text.toList = front ++ word ++ tail ∧
      (String.ofList front).utf8ByteSize = start := by
  obtain ⟨c, more, rfl⟩ := List.exists_cons_of_ne_nil nonempty
  obtain ⟨some, first⟩ := isFirstByte_of_eq_utf8Encode slice
  have inside : start < text.toByteArray.size := by
    rw [ByteArray.size_extract] at some
    omega
  simp only [ByteArray.getElem_extract, Nat.add_zero] at first
  -- the first byte of the word shows that the slice starts at a character
  have valid : String.Pos.Raw.IsValid text ⟨start⟩ :=
    String.Pos.Raw.isValid_iff_isUTF8FirstByte.mpr (.inr ⟨inside, first⟩)
  obtain ⟨front, rest, rfl, offset⟩ := String.Pos.Raw.isValid_iff_exists_append.mp valid
  obtain rfl : start = front.toByteArray.size := congrArg String.Pos.Raw.byteIdx offset
  -- what is left of the slice lies in the rest of the text
  have cut : rest.toByteArray.extract 0 (stop - front.toByteArray.size) =
      (c :: more).utf8Encode := by
    have behind : front.toByteArray.extract front.toByteArray.size stop = .empty := by
      apply ByteArray.ext
      rw [ByteArray.data_extract]
      exact Array.extract_eq_empty_iff.mpr (Nat.min_le_right ..)
    rw [← slice, String.toByteArray_append, ByteArray.extract_append, behind, Nat.sub_self,
      ByteArray.empty_append]
  obtain ⟨tail, split⟩ : c :: more <+: rest.toList := by
    apply List.isPrefix_of_utf8Encode_append_eq_utf8Encode
      (rest.toByteArray.extract (stop - front.toByteArray.size) rest.toByteArray.size)
    rw [← cut, ByteArray.extract_append_extract, Nat.zero_min, String.utf8Encode_toList]
    exact ByteArray.extract_zero_max_size
  exact ⟨front.toList, tail, by simp [← split], by simp⟩

/-- A plain word that is cut out of an encoded text stands in the text, at the offset given. -/
theorem exists_append_of_decode {text : String} {start stop : Nat} {word : List Char}
    (plain : ∀ c ∈ word, isPlain c = true) (nonempty : word ≠ [])
    (decoded : decode (text.toUTF8.extract start stop) = String.ofList word) :
    ∃ front tail : List Char, text.toList = front ++ word ++ tail ∧
      (String.ofList front).utf8ByteSize = start := by
  apply exists_append_of_extract nonempty
  apply ByteArray.ext
  apply Array.ext'
  rw [utf8Encode_of_plain plain]
  exact eq_of_decodeFrom plain (String.ofList_inj.mp decoded)

end SpecLint.Text
