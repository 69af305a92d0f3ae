import SpecLint.Data.Merge

/-!
# Lookups in merged mappings

Under every key, a merge of two mappings holds what the upper one puts over the lower one: the upper
value where it is no mapping, and a merge of both where both are mappings.

## Main results

`get?_mergeEntries`: the values in merged entries, and `get?_entries_mergeValue`, the same for
values that are mappings.
-/
namespace SpecLint.Data

namespace Scalar

theorem same_iff {left right : Scalar} : left.same right = true ↔ left.key = right.key := by
  rw [same, beq_iff_eq]

theorem same_comm (left right : Scalar) : left.same right = right.same left := by
  rw [Bool.eq_iff_iff, same_iff, same_iff]
  exact eq_comm

theorem same_congr {left right : Scalar} (equal : left.same right = true) (other : Scalar) :
    left.same other = right.same other := by
  rw [same, same, same_iff.mp equal]

end Scalar

/-- The upper value over the lower one. -/
def onto (lower upper : Option Value) : Option Value :=
  match upper with
  | none => lower
  | some value => some (mergeValue lower value)

namespace Entries

/-- No key stands twice. -/
def Distinct (entries : Entries) : Prop :=
  entries.Pairwise fun first later => first.1.same later.1 = false

theorem get?_cons (name key : Scalar) (value : Value) (rest : Entries) :
    get? ((name, value) :: rest) key = if name.same key then some value else get? rest key := by
  rw [get?, List.find?_cons]
  cases name.same key <;> rfl

theorem get?_congr {key other : Scalar} (equal : key.same other = true) (entries : Entries) :
    get? entries key = get? entries other := by
  have tests : (fun entry : Scalar × Value => entry.1.same key) =
      fun entry => entry.1.same other := by
    funext entry
    rw [Scalar.same_comm entry.1 key, Scalar.same_comm entry.1 other, Scalar.same_congr equal]
  rw [get?, get?, tests]

theorem mem_put {key : Scalar} {value : Value} {entries : Entries} {entry : Scalar × Value}
    (member : entry ∈ put key value entries) :
    entry.1 = key ∨ ∃ old ∈ entries, entry.1 = old.1 := by
  induction entries with
  | nil => exact .inl (by rw [List.mem_singleton.mp member])
  | cons first rest ih =>
    obtain ⟨name, old⟩ := first
    rw [put] at member
    split at member
    · rcases List.mem_cons.mp member with rfl | later
      · exact .inr ⟨(name, old), List.mem_cons_self .., rfl⟩
      · exact .inr ⟨entry, List.mem_cons_of_mem _ later, rfl⟩
    · rcases List.mem_cons.mp member with rfl | later
      · exact .inr ⟨(name, old), List.mem_cons_self .., rfl⟩
      · rcases ih later with isKey | ⟨other, among, same⟩
        · exact .inl isKey
        · exact .inr ⟨other, List.mem_cons_of_mem _ among, same⟩

/-- Writing keeps the keys distinct. -/
theorem Distinct.put {entries : Entries} (distinct : Distinct entries) (key : Scalar)
    (value : Value) : Distinct (Entries.put key value entries) := by
  induction entries with
  | nil => exact List.pairwise_singleton ..
  | cons first rest ih =>
    obtain ⟨name, old⟩ := first
    have apart := List.pairwise_cons.mp distinct
    rw [Entries.put]
    split
    next same => exact List.pairwise_cons.mpr ⟨apart.1, apart.2⟩
    next differs =>
      refine List.pairwise_cons.mpr ⟨fun entry member => ?_, ih apart.2⟩
      rcases mem_put member with isKey | ⟨other, among, same⟩
      · rw [isKey]
        exact Bool.eq_false_iff.mpr differs
      · rw [same]
        exact apart.1 other among

theorem Distinct.mergeEntries {base : Entries} (distinct : Distinct base) (later : Entries) :
    Distinct (Data.mergeEntries base later) := by
  induction later generalizing base with
  | nil =>
    rw [mergeEntries_nil]
    exact distinct
  | cons entry rest ih =>
    obtain ⟨key, value⟩ := entry
    rw [Data.mergeEntries]
    exact ih (distinct.put ..)

/-- Under each key, merged entries hold the upper value over the lower one. -/
theorem get?_mergeEntries (base : Entries) {later : Entries} (distinct : Distinct later)
    (key : Scalar) :
    get? (Data.mergeEntries base later) key = onto (get? base key) (get? later key) := by
  induction later generalizing base with
  | nil =>
    rw [mergeEntries_nil]
    rfl
  | cons entry rest ih =>
    obtain ⟨name, value⟩ := entry
    have apart := List.pairwise_cons.mp distinct
    rw [Data.mergeEntries, get?_cons]
    cases same : name.same key with
    | true =>
      -- the key does not come again
      have absent : ∀ entry ∈ rest, entry.1.same name = false := by
        intro entry member
        rw [Scalar.same_comm]
        exact apart.1 entry member
      have written : get? (Data.mergeEntries (put name (mergeValue (get? base name) value) base)
          rest) name = some (mergeValue (get? base name) value) := by
        rw [get?_mergeEntries_other _ _ _ absent, get?_put_self]
      rw [get?_congr same] at written
      rw [written, get?_congr same]
      rfl
    | false => rw [ih _ apart.2, get?_put_other _ _ _ _ same]; rfl

end Entries

theorem Value.exists_map_of_isMap {value : Value} (isMap : value.isMap = true) :
    ∃ entries, value.bare = .map entries := by
  unfold Value.isMap at isMap
  split at isMap
  next entries shape => exact ⟨entries, shape⟩
  next => cases isMap

/-- A value that is no mapping replaces any other. -/
theorem mergeValue_of_not_isMap (lower : Option Value) {upper : Value}
    (single : upper.isMap = false) : mergeValue lower upper = upper := by
  cases upper with
  | map inside => cases single
  | looped number value =>
    have inner : value.isMap = false := single
    simp [mergeValue, inner]
  | _ => simp [mergeValue]

/-- A mapping over another one is the merge of both. -/
theorem mergeValue_of_isMap (lower : Option Value) : (upper : Value) → upper.isMap = true →
    mergeValue lower upper =
      if lower.any Value.isMap then
        .map (mergeEntries (lower.elim [] Value.entries) upper.entries)
      else upper
  | .map inside, _ => by
    cases lower with
    | none => simp [mergeValue]
    | some old =>
      cases shape : old.bare <;>
        simp [mergeValue, Value.isMap, Value.entries, Value.bare, shape]
  | .looped number value, isMap => by
    have inner : value.isMap = true := isMap
    have step := mergeValue_of_isMap lower value inner
    by_cases both : lower.any Value.isMap = true
    · rw [if_pos both] at step ⊢
      rw [mergeValue, if_pos ⟨inner, both⟩, step]
      rfl
    · rw [if_neg both, mergeValue, if_neg fun held => both held.2]
  | .scalar _, isMap | .list _, isMap | .tuple _, isMap | .set _, isMap => by cases isMap

theorem mergeValue_none (upper : Value) : mergeValue none upper = upper := by
  cases isMap : upper.isMap with
  | false => exact mergeValue_of_not_isMap none isMap
  | true =>
    rw [mergeValue_of_isMap none upper isMap]
    rfl

theorem isMap_mergeValue (lower : Option Value) (upper : Value) :
    (mergeValue lower upper).isMap = upper.isMap := by
  cases isMap : upper.isMap with
  | false => rw [mergeValue_of_not_isMap lower isMap, isMap]
  | true =>
    rw [mergeValue_of_isMap lower upper isMap]
    split
    · rfl
    · exact isMap

/-- Under each key, a mapping over a value holds its own value over that of the other. -/
theorem get?_entries_mergeValue (lower : Option Value) {upper : Value}
    (isMap : upper.isMap = true) (distinct : upper.entries.Distinct) (key : Scalar) :
    Entries.get? (mergeValue lower upper).entries key =
      onto (Entries.get? (lower.elim [] Value.entries) key) (Entries.get? upper.entries key) := by
  rw [mergeValue_of_isMap lower upper isMap]
  split
  next both =>
    exact Entries.get?_mergeEntries _ distinct key
  next alone =>
    have nothing : lower.elim [] Value.entries = [] := by
      cases lower with
      | none => rfl
      | some old => exact Value.entries_of_not_isMap (Bool.eq_false_iff.mpr alone)
    rw [nothing]
    cases Entries.get? upper.entries key with
    | none => rfl
    | some value => exact congrArg some (mergeValue_none value).symm

theorem distinct_entries_mergeValue {lower : Option Value} {upper : Value}
    (below : Entries.Distinct (lower.elim [] Value.entries)) (distinct : upper.entries.Distinct) :
    (mergeValue lower upper).entries.Distinct := by
  cases isMap : upper.isMap with
  | false =>
    rw [mergeValue_of_not_isMap lower isMap]
    exact distinct
  | true =>
    rw [mergeValue_of_isMap lower upper isMap]
    split
    · exact below.mergeEntries _
    · exact distinct

end SpecLint.Data
