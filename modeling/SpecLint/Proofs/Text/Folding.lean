import SpecLint.Text.Case

/-!
# Ignoring letter case

Two characters match when letter case is ignored if their lower cases are the same or partners. The
characters that match a given one are read off the tables backwards: from a lower case and its
partners to what has them as its lower case.

## Main results

* `sameFold_comm`: matching goes both ways.
* `mem_foldSources_iff`: the characters read off the tables are those that match.
-/
namespace SpecLint.Text

/-- The partners of a lower case. -/
def partners (code : Nat) : List Nat := (foldPartners.lookup code).getD []

/-! ### Lower cases -/

/-- The lower case of a code point and the run it comes from. -/
theorem applyRuns_lowerRuns_cases (code : Nat) :
    applyRuns lowerRuns code = code ∨
      ∃ run ∈ lowerRuns, run.covers code = true ∧ run.first ≤ code ∧ code ≤ run.last ∧
        applyRuns lowerRuns code = (code + run.shift).toNat := by
  unfold applyRuns
  split
  next run found =>
    right
    have covered := List.find?_some found
    have within := covered
    simp only [CaseRun.covers, Bool.and_eq_true, decide_eq_true_eq] at within
    exact ⟨run, List.mem_of_find?_eq_some found, covered, within.1.1, within.1.2, rfl⟩
  next => exact .inl rfl

/-- A run moves its characters to characters. -/
theorem shift_of_mem_lowerRuns {run : CaseRun} (member : run ∈ lowerRuns) :
    0 ≤ (run.first : Int) + run.shift ∧
      ((run.last : Int) + run.shift < 0xD800 ∨
        0xDFFF < (run.first : Int) + run.shift ∧ (run.last : Int) + run.shift < 0x110000) := by
  have all : ∀ run ∈ lowerRuns, 0 ≤ (run.first : Int) + run.shift ∧
      ((run.last : Int) + run.shift < 0xD800 ∨
        0xDFFF < (run.first : Int) + run.shift ∧ (run.last : Int) + run.shift < 0x110000) := by
    decide +kernel
  exact all run member

theorem toNat_lowerChar (c : Char) : (lowerChar c).toNat = applyRuns lowerRuns c.toNat := by
  rcases applyRuns_lowerRuns_cases c.toNat with fixed | ⟨run, member, -, low, high, moved⟩
  · rw [lowerChar, fixed, Char.ofNat_toNat]
  · have bounds := shift_of_mem_lowerRuns member
    have valid : (c.toNat + run.shift).toNat.isValidChar := by
      unfold Nat.isValidChar
      omega
    rw [lowerChar, moved, Char.ofNat, dif_pos valid]
    rfl

theorem mem_lowerSources_iff {source code : Nat} :
    source ∈ lowerSources code ↔ applyRuns lowerRuns source = code := by
  simp only [lowerSources, List.mem_append, List.mem_filterMap]
  constructor
  · rintro (same | ⟨run, -, found⟩)
    · split at same
      next fixed => rw [List.mem_singleton.mp same, fixed]
      next => cases same
    · split at found
      next covered =>
        rw [Option.some.injEq] at found
        rw [Bool.and_eq_true, beq_iff_eq, found] at covered
        exact covered.2
      next => cases found
  · intro lowered
    rcases applyRuns_lowerRuns_cases source with fixed | ⟨run, member, covered, low, high, moved⟩
    · left
      rw [← lowered, fixed, fixed, if_pos rfl]
      exact List.mem_singleton_self source
    · -- the way back along the run leads to where it came from
      have back : ((code : Int) - run.shift).toNat = source := by
        have bounds := shift_of_mem_lowerRuns member
        rw [← lowered, moved]
        omega
      right
      refine ⟨run, member, ?_⟩
      simp only [back, covered, lowered, beq_self_eq_true, Bool.and_true, if_true]

/-! ### Partners -/

/-- Partners are partners of one another. -/
theorem mem_partners_comm {left right : Nat} :
    left ∈ partners right ↔ right ∈ partners left := by
  have returned : ∀ entry ∈ foldPartners, ∀ partner ∈ entry.2, entry.1 ∈ partners partner := by
    decide +kernel
  have oneWay {left right : Nat} (member : right ∈ partners left) : left ∈ partners right := by
    rw [partners] at member
    cases found : foldPartners.lookup left with
    | none => simp [found] at member
    | some listed =>
      rw [found, Option.getD_some] at member
      obtain ⟨front, back, split, -⟩ := List.lookup_eq_some_iff.mp found
      exact returned (left, listed) (by simp [split]) right member
  exact ⟨oneWay, oneWay⟩

theorem sameFold_iff {c d : Char} :
    sameFold c d = true ↔ applyRuns lowerRuns d.toNat = applyRuns lowerRuns c.toNat ∨
      applyRuns lowerRuns d.toNat ∈ partners (applyRuns lowerRuns c.toNat) := by
  simp [sameFold, partners, toNat_lowerChar]

theorem sameFold_comm (c d : Char) : sameFold c d = sameFold d c := by
  have oneWay (c d : Char) (same : sameFold c d = true) : sameFold d c = true := by
    rw [sameFold_iff] at same ⊢
    exact same.imp Eq.symm mem_partners_comm.mpr
  rw [Bool.eq_iff_iff]
  exact ⟨oneWay c d, oneWay d c⟩

theorem mem_foldSources_iff {c d : Char} : d.toNat ∈ foldSources c ↔ sameFold c d = true := by
  rw [sameFold_iff]
  simp only [foldSources, List.mem_flatMap, mem_lowerSources_iff, exists_eq_right',
    toNat_lowerChar]
  exact List.mem_cons

end SpecLint.Text
