import SpecLint.Data.Descent

/-!
# Merging settings

Later settings win over earlier ones key by key: two mappings under one key are merged, anything
else is replaced. Merging never loses a key of either side. Mappings that lead on together without
end cannot be merged.
-/
namespace SpecLint.Data

mutual
/-- Write all entries of the second mapping into the first. -/
def mergeEntries (base : Entries) : List (Scalar × Value) → Entries
  | [] => base
  | (key, value) :: rest =>
    mergeEntries (Entries.put key (mergeValue (Entries.get? base key) value) base) rest

/-- The value that replaces an old one. -/
def mergeValue (old : Option Value) : Value → Value
  | .map entries => match old.map Value.bare with
    | some (.map present) => .map (mergeEntries present entries)
    | _ => .map entries
  | .looped number value =>
    if value.isMap ∧ old.any Value.isMap then mergeValue old value else .looped number value
  | other => other
end

theorem mergeEntries_nil (base : Entries) : mergeEntries base [] = base := by
  simp [mergeEntries]

/-- A key that the later settings do not name keeps its value. -/
theorem get?_mergeEntries_other (base later : Entries) (key : Scalar)
    (absent : ∀ entry ∈ later, entry.1.same key = false) :
    Entries.get? (mergeEntries base later) key = Entries.get? base key := by
  induction later generalizing base with
  | nil => rw [mergeEntries_nil]
  | cons entry rest ih =>
    obtain ⟨name, value⟩ := entry
    rw [mergeEntries, ih _ fun entry member => absent entry (List.mem_cons_of_mem _ member)]
    exact Entries.get?_put_other _ _ _ _ (absent (name, value) List.mem_cons_self)

/-- Why an override cannot be merged into a value. -/
inductive MergeFailure where
  /-- A scalar has no entries. -/
  | scalarBase
  /-- A list has no named entries. -/
  | namedItem
  /-- A list has no item at that position. -/
  | itemOutOfRange
  /-- Both are mappings that lead on together without end. -/
  | endless
  deriving DecidableEq, Repr

/-- The position in a list of `size` items that a key names; negative keys count from the end. -/
def itemIndex (size : Nat) (key : Scalar) : Except MergeFailure Nat :=
  let position (n : Int) : Except MergeFailure Nat :=
    let shifted := if n < 0 then n + size else n
    if 0 ≤ shifted ∧ shifted < size then .ok shifted.toNat else .error .itemOutOfRange
  match key with
  | .int n => position n
  | .bool b => position (if b then 1 else 0)
  | _ => .error .namedItem

/-- Whether an item of the list is a scalar equal to `key`. -/
def hasItem (items : List Value) (key : Scalar) : Bool :=
  items.any fun
    | .scalar item => item.same key
    | _ => false

/-- Merge a value into one that is there. -/
def mergeInto (links : List Link) (old : Option Value) (value : Value) :
    Except MergeFailure Value :=
  if old.any (leadOnForever links · value) then .error .endless else .ok (mergeValue old value)

/-- Write an entry into a list, addressing an item by number. -/
def writeItem (links : List Link) (items : List Value) (entry : Scalar × Value) :
    Except MergeFailure (List Value) := do
  let index ← itemIndex items.length entry.1
  if hasItem items entry.1 then
    (mergeInto links items[index]? entry.2).map fun merged => items.set index merged
  else return items.set index entry.2

/-- Merge a mapping into any value. -/
def mergeUnder (links : List Link) (base override : Value) : Except MergeFailure Value :=
  if leadOnForever links base override then .error .endless
  else match base.bare with
  | .map entries => .ok (.map (mergeEntries entries override.entries))
  | .list items => (override.entries.foldlM (writeItem links) items).map .list
  | .set items => if override.entries = [] then .ok (.set items) else .error .namedItem
  | .scalar _ | .tuple _ | .looped .. => .error .scalarBase

end SpecLint.Data
