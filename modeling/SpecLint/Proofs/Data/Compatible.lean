import SpecLint.Proofs.Data.Descents

/-!
# Values that agree

Two mappings agree if the values that they hold under a common key are equal or mappings that agree
in turn. Such mappings can be merged in either order: no setting overrides another one, so the merge
holds every setting of both and no other.

## Main results

* `alike_mergeValue_swap`: values that agree come to the same in either order;
* `at?_mergeValue`: what a merge holds along a path is what the two values hold along it;
* `exists_kept_of_lower`, `exists_kept_of_upper`: a merge keeps what either of them sets;
* `Nested.mergeEntries_mergeEntries`: to merge the same mapping again changes nothing.
-/
namespace SpecLint.Data

/-- Equality of values: mappings and sets may hold the same in another order, and numbers and truth
values may be written differently. -/
inductive Alike : Value → Value → Prop where
  | same (value : Value) : Alike value value
  | scalar {left right : Scalar} : left.same right = true → Alike (.scalar left) (.scalar right)
  | list {left right : List Value} : left.length = right.length →
      (∀ (index : Nat) (first second : Value), left[index]? = some first →
        right[index]? = some second → Alike first second) → Alike (.list left) (.list right)
  | tuple {left right : List Value} : left.length = right.length →
      (∀ (index : Nat) (first second : Value), left[index]? = some first →
        right[index]? = some second → Alike first second) → Alike (.tuple left) (.tuple right)
  | set {left right : List Scalar} :
      (∀ item, (∃ first ∈ left, first.same item = true) ↔
        ∃ second ∈ right, second.same item = true) → Alike (.set left) (.set right)
  | map {left right : Entries} :
      (∀ key, (Entries.get? left key).isSome = (Entries.get? right key).isSome) →
      (∀ (key : Scalar) (first second : Value), Entries.get? left key = some first →
        Entries.get? right key = some second → Alike first second) → Alike (.map left) (.map right)

/-- No key stands twice in a mapping or in one of the mappings under its keys. -/
inductive Keyed : Value → Prop where
  | intro {value : Value} (distinct : value.entries.Distinct)
      (inner : ∀ entry ∈ value.entries, Keyed entry.2) : Keyed value

/-- Mappings of mappings of any depth, but none inside itself, and no key twice. -/
inductive Nested : Value → Prop where
  | leaf {value : Value} (single : value.isMap = false) : Nested value
  | map {entries : Entries} (distinct : entries.Distinct)
      (inner : ∀ entry ∈ entries, Nested entry.2) : Nested (.map entries)

/-- Values that agree: equal ones, and mappings that agree wherever both hold the same key. -/
inductive Compatible : Value → Value → Prop where
  | equal {left right : Value} (alike : Alike left right) : Compatible left right
  | maps {left right : Value} (first : left.isMap = true) (second : right.isMap = true)
      (inner : ∀ (key : Scalar) (lower upper : Value),
        Entries.get? left.entries key = some lower → Entries.get? right.entries key = some upper →
        Compatible lower upper) : Compatible left right

/-- What a value holds along a path of keys. -/
def Value.at? : List Scalar → Value → Option Value
  | [], value => some value
  | key :: path, value => (Entries.get? value.entries key).bind (Value.at? path)

/-- A setting still stands in another place: what is no mapping is held as it is, and for a mapping
there is a mapping. -/
def Kept (setting held : Value) : Prop :=
  held.isMap = setting.isMap ∧ (setting.isMap = false → Alike setting held)

/-! ### Equal values -/

namespace Alike

variable {left right : Value}

theorem symm (alike : Alike left right) : Alike right left := by
  induction alike with
  | same value => exact .same value
  | scalar same => exact .scalar (by rwa [Scalar.same_comm])
  | list size _ ih =>
    exact .list size.symm fun index first second one two => ih index second first two one
  | tuple size _ ih =>
    exact .tuple size.symm fun index first second one two => ih index second first two one
  | set items => exact .set fun item => (items item).symm
  | map keys _ ih =>
    exact .map (fun key => (keys key).symm) fun key first second one two =>
      ih key second first two one

theorem isMap_eq (alike : Alike left right) : left.isMap = right.isMap := by
  cases alike <;> rfl

end Alike

namespace Compatible

variable {left right : Value}

theorem symm (compatible : Compatible left right) : Compatible right left := by
  induction compatible with
  | equal alike => exact .equal alike.symm
  | maps first second _ ih =>
    exact .maps second first fun key lower upper one two => ih key upper lower two one

theorem isMap_eq (compatible : Compatible left right) : left.isMap = right.isMap := by
  cases compatible with
  | equal alike => exact alike.isMap_eq
  | maps first second _ => rw [first, second]

theorem alike_of_single (compatible : Compatible left right) (single : left.isMap = false) :
    Alike left right := by
  cases compatible with
  | equal alike => exact alike
  | maps first _ _ =>
    rw [single] at first
    cases first

/-- Values under a common key agree, also in mappings that are equal. -/
theorem inner_of_get? (compatible : Compatible left right) {key : Scalar} {lower upper : Value}
    (one : Entries.get? left.entries key = some lower)
    (two : Entries.get? right.entries key = some upper) : Compatible lower upper := by
  cases compatible with
  | maps _ _ inner => exact inner key lower upper one two
  | equal alike =>
    cases alike with
    | same value =>
      rw [one] at two
      obtain rfl := Option.some.inj two
      exact .equal (.same lower)
    | map _ inner => exact .equal (inner key lower upper one two)
    | _ => cases one

/-- Mappings agree if their entries under equal keys do. -/
theorem of_entries {left right : Entries}
    (inner : ∀ first ∈ left, ∀ second ∈ right, first.1.same second.1 = true →
      Compatible first.2 second.2) : Compatible (.map left) (.map right) := by
  refine .maps rfl rfl fun key lower upper one two => ?_
  obtain ⟨first, found, rfl⟩ := Option.map_eq_some_iff.mp one
  obtain ⟨second, other, rfl⟩ := Option.map_eq_some_iff.mp two
  have isFirst := List.find?_some found
  have isSecond := List.find?_some other
  refine inner first (List.mem_of_find?_eq_some found) second (List.mem_of_find?_eq_some other) ?_
  rw [Scalar.same_congr isFirst, Scalar.same_comm]
  exact isSecond

end Compatible

namespace Keyed

variable {value : Value}

theorem distinct (keyed : Keyed value) : value.entries.Distinct := by
  cases keyed with
  | intro distinct _ => exact distinct

theorem of_get? (keyed : Keyed value) {key : Scalar} {held : Value}
    (found : Entries.get? value.entries key = some held) : Keyed held := by
  cases keyed with
  | intro _ inner =>
    obtain ⟨entry, first, rfl⟩ := Option.map_eq_some_iff.mp found
    exact inner entry (List.mem_of_find?_eq_some first)

end Keyed

theorem Nested.keyed {value : Value} (nested : Nested value) : Keyed value := by
  induction nested with
  | leaf single =>
    refine ⟨?_, ?_⟩ <;> rw [Value.entries_of_not_isMap single]
    · exact List.Pairwise.nil
    · exact fun _ member => nomatch member
  | map distinct _ ih => exact ⟨distinct, ih⟩

/-- A nested mapping can be followed down as deep as it is. -/
theorem Nested.steps_le_depth {links : List Link} {value : Value} (nested : Nested value)
    {steps : Nat} {other : Stop} (leads : leadOn links steps value.stop other = true) :
    steps ≤ value.depth := by
  induction nested generalizing steps other with
  | leaf single =>
    cases steps with
    | zero => exact Nat.zero_le _
    | succ steps =>
      obtain ⟨one, next, -⟩ := leadOn_succ.mp leads
      rw [next_of_not_isMap single] at next
      cases next
  | @map entries _ _ ih =>
    cases steps with
    | zero => exact Nat.zero_le _
    | succ steps =>
      obtain ⟨one, next, another, -, -, onwards⟩ := leadOn_succ.mp leads
      obtain ⟨entry, among, rfl⟩ := List.mem_map.mp next
      have member := (List.mem_filter.mp among).1
      exact (ih entry member onwards).trans_lt (depth_lt_of_mem_entries member)

theorem Nested.not_endless {links : List Link} {left right : Value} (nested : Nested left) :
    ¬Endless links left right :=
  fun endless => absurd (nested.steps_le_depth (endless (left.depth + 1))) (Nat.not_succ_le_self _)

/-! ### Merging values that agree -/

theorem onto_none_left (upper : Option Value) : onto none upper = upper := by
  cases upper with
  | none => rfl
  | some value => exact congrArg some (mergeValue_none value)

theorem isSome_onto (lower upper : Option Value) :
    (onto lower upper).isSome = (lower.isSome || upper.isSome) := by
  cases lower <;> cases upper <;> rfl

theorem mergeValue_maps {lower upper : Value} (first : lower.isMap = true)
    (second : upper.isMap = true) :
    mergeValue (some lower) upper = .map (mergeEntries lower.entries upper.entries) := by
  rw [mergeValue_of_isMap _ upper second]
  exact if_pos first

/-- What stands on one side only comes out as it is, so two results differ only where both sides
hold something. -/
theorem alike_onto_swap {lower upper : Option Value} {first second : Value}
    (both : ∀ below above, lower = some below → upper = some above →
      Alike (mergeValue (some above) below) (mergeValue (some below) above))
    (one : onto upper lower = some first) (two : onto lower upper = some second) :
    Alike first second := by
  cases lower with
  | none =>
    rw [onto_none_left] at two
    change upper = some first at one
    rw [one] at two
    obtain rfl := Option.some.inj two
    exact .same first
  | some below =>
    cases upper with
    | none =>
      rw [onto_none_left] at one
      change some below = some second at two
      rw [one] at two
      obtain rfl := Option.some.inj two
      exact .same first
    | some above =>
      obtain rfl := Option.some.inj one
      obtain rfl := Option.some.inj two
      exact both below above rfl rfl

/-- Values that agree come to the same whichever is merged into the other. -/
theorem alike_mergeValue_swap {lower upper : Value} (below : Keyed lower) (above : Keyed upper)
    (compatible : Compatible lower upper) :
    Alike (mergeValue (some upper) lower) (mergeValue (some lower) upper) := by
  -- by induction on the values above, as the two sides are merged key by key
  induction above generalizing lower with
  | @intro upper distinct _ ih =>
    have shape := compatible.isMap_eq
    cases isMap : upper.isMap with
    | false =>
      rw [isMap] at shape
      rw [mergeValue_of_not_isMap _ isMap, mergeValue_of_not_isMap _ shape]
      exact compatible.alike_of_single shape
    | true =>
      rw [isMap] at shape
      rw [mergeValue_maps isMap shape, mergeValue_maps shape isMap]
      refine .map (fun key => ?_) fun key first second one two => ?_
      · rw [Entries.get?_mergeEntries _ below.distinct, Entries.get?_mergeEntries _ distinct,
          isSome_onto, isSome_onto, Bool.or_comm]
      · rw [Entries.get?_mergeEntries _ below.distinct] at one
        rw [Entries.get?_mergeEntries _ distinct] at two
        refine alike_onto_swap (fun old new left right => ?_) one two
        obtain ⟨entry, found, rfl⟩ := Option.map_eq_some_iff.mp right
        exact ih entry (List.mem_of_find?_eq_some found) (below.of_get? left)
          (compatible.inner_of_get? left right)

/-- Along every path, a merge of values that agree holds the upper value over the lower one. -/
theorem at?_mergeValue {lower upper : Value} (above : Keyed upper)
    (compatible : Compatible lower upper) (path : List Scalar) :
    (mergeValue (some lower) upper).at? path = onto (lower.at? path) (upper.at? path) := by
  induction path generalizing lower upper with
  | nil => rfl
  | cons key path ih =>
    have shape := compatible.isMap_eq
    cases isMap : upper.isMap with
    | false =>
      rw [isMap] at shape
      rw [mergeValue_of_not_isMap _ isMap, Value.at?, Value.at?, Value.entries_of_not_isMap isMap,
        Value.entries_of_not_isMap shape]
      rfl
    | true =>
      -- under the key, too, one value is merged over the other, and the path leads on into these
      rw [Value.at?, Value.at?, Value.at?, get?_entries_mergeValue _ isMap above.distinct]
      change (onto (Entries.get? lower.entries key) _).bind _ = _
      cases left : Entries.get? lower.entries key with
      | none =>
        rw [onto_none_left]
        exact (onto_none_left _).symm
      | some old =>
        cases right : Entries.get? upper.entries key with
        | none => rfl
        | some new => exact ih (above.of_get? right) (compatible.inner_of_get? left right)

/-- What values that agree hold along the same path agrees. -/
theorem Compatible.of_at? {lower upper old new : Value} (compatible : Compatible lower upper)
    {path : List Scalar} (left : lower.at? path = some old) (right : upper.at? path = some new) :
    Compatible old new := by
  induction path generalizing lower upper with
  | nil =>
    obtain rfl := Option.some.inj left
    obtain rfl := Option.some.inj right
    exact compatible
  | cons key path ih =>
    obtain ⟨below, first, left⟩ := Option.bind_eq_some_iff.mp left
    obtain ⟨above, second, right⟩ := Option.bind_eq_some_iff.mp right
    exact ih (compatible.inner_of_get? first second) left right

/-! ### Settings that are kept -/

theorem kept_refl (value : Value) : Kept value value := ⟨rfl, fun _ => .same value⟩

theorem Compatible.kept_lower {lower upper : Value} (compatible : Compatible lower upper) :
    Kept lower (mergeValue (some lower) upper) := by
  refine ⟨by rw [isMap_mergeValue, compatible.isMap_eq], fun single => ?_⟩
  rw [mergeValue_of_not_isMap _ (compatible.isMap_eq ▸ single)]
  exact compatible.alike_of_single single

theorem kept_upper (lower : Option Value) (upper : Value) :
    Kept upper (mergeValue lower upper) := by
  refine ⟨isMap_mergeValue lower upper, fun single => ?_⟩
  rw [mergeValue_of_not_isMap _ single]
  exact .same upper

/-- A merge of values that agree keeps every setting of the lower one. -/
theorem exists_kept_of_lower {lower upper setting : Value} (above : Keyed upper)
    (compatible : Compatible lower upper) {path : List Scalar}
    (found : lower.at? path = some setting) :
    ∃ held, (mergeValue (some lower) upper).at? path = some held ∧ Kept setting held := by
  rw [at?_mergeValue above compatible, found]
  cases other : upper.at? path with
  | none => exact ⟨setting, rfl, kept_refl setting⟩
  | some value => exact ⟨_, rfl, (compatible.of_at? found other).kept_lower⟩

/-- A merge of values that agree keeps every setting of the upper one. -/
theorem exists_kept_of_upper {lower upper setting : Value} (above : Keyed upper)
    (compatible : Compatible lower upper) {path : List Scalar}
    (found : upper.at? path = some setting) :
    ∃ held, (mergeValue (some lower) upper).at? path = some held ∧ Kept setting held := by
  rw [at?_mergeValue above compatible, found]
  exact ⟨_, rfl, kept_upper _ setting⟩

/-! ### Merging again -/

namespace Entries

/-- To write under a key what it holds changes nothing. -/
theorem put_of_get? {entries : Entries} {key : Scalar} {value : Value}
    (held : get? entries key = some value) : put key value entries = entries := by
  induction entries with
  | nil => cases held
  | cons entry rest ih =>
    obtain ⟨name, old⟩ := entry
    rw [get?_cons] at held
    rw [put]
    split at held
    next same =>
      obtain rfl := Option.some.inj held
      rw [if_pos same]
    next other => rw [if_neg other, ih held]

theorem get?_of_mem {entries : Entries} (distinct : Distinct entries) {entry : Scalar × Value}
    (member : entry ∈ entries) : get? entries entry.1 = some entry.2 := by
  induction entries with
  | nil => cases member
  | cons first rest ih =>
    obtain ⟨apart, others⟩ := List.pairwise_cons.mp distinct
    rw [get?_cons]
    rcases List.mem_cons.mp member with rfl | later
    · rw [if_pos (Scalar.same_refl _)]
    · rw [if_neg (Bool.eq_false_iff.mp (apart entry later)), ih others later]

/-- Entries that are taken in already change nothing. -/
theorem mergeEntries_of_held {base later : Entries}
    (held : ∀ entry ∈ later, ∃ value, get? base entry.1 = some value ∧
      mergeValue (some value) entry.2 = value) : Data.mergeEntries base later = base := by
  induction later with
  | nil => exact mergeEntries_nil base
  | cons entry rest ih =>
    obtain ⟨key, upper⟩ := entry
    obtain ⟨value, found, taken⟩ := held (key, upper) List.mem_cons_self
    rw [Data.mergeEntries, found, taken, put_of_get? found]
    exact ih fun entry member => held entry (List.mem_cons_of_mem _ member)

end Entries

namespace Nested

/-- A nested mapping merged into a value that has taken it in changes nothing. -/
theorem mergeValue_mergeValue {upper : Value} (nested : Nested upper) (lower : Option Value) :
    mergeValue (some (mergeValue lower upper)) upper = mergeValue lower upper := by
  induction nested generalizing lower with
  | leaf single => rw [mergeValue_of_not_isMap _ single, mergeValue_of_not_isMap _ single]
  | @map entries distinct _ ih =>
    -- every value of the mapping is taken in by what the first merge holds under its key
    have again (base : Entries) :
        mergeEntries (mergeEntries base entries) entries = mergeEntries base entries := by
      refine Entries.mergeEntries_of_held fun entry member => ?_
      rw [Entries.get?_mergeEntries _ distinct, Entries.get?_of_mem distinct member]
      exact ⟨_, rfl, ih entry member _⟩
    have alone : mergeEntries entries entries = entries := by
      refine Entries.mergeEntries_of_held fun entry member => ?_
      have taken := ih entry member none
      rw [mergeValue_none] at taken
      exact ⟨entry.2, Entries.get?_of_mem distinct member, taken⟩
    rw [mergeValue_of_isMap lower _ rfl]
    split
    next =>
      rw [mergeValue_maps rfl rfl]
      exact congrArg Value.map (again _)
    next =>
      rw [mergeValue_maps rfl rfl]
      exact congrArg Value.map alone

/-- To merge the same nested mapping again changes nothing. -/
theorem mergeEntries_mergeEntries {override : Entries} (nested : Nested (.map override))
    (base : Entries) :
    mergeEntries (mergeEntries base override) override = mergeEntries base override := by
  have again := nested.mergeValue_mergeValue (some (.map base))
  rw [mergeValue_maps rfl rfl, mergeValue_maps rfl rfl] at again
  exact Value.map.inj again

end Nested

end SpecLint.Data
