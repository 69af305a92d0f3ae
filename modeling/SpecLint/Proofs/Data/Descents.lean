import Mathlib.Data.Finset.Prod
import Mathlib.Order.Monotone.Basic
import SpecLint.Proofs.Data.Merging

/-!
# Ways without end

Two values lead on together without end if their common keys can be followed down any number of
times. A way that is longer than there are pairs of mappings that contain themselves shows this
already: how many of these pairs still lead on drops with each further step, or never again.

## Main result

`leadOnForever_iff`: what is tested is that every number of steps can be taken.
-/
namespace SpecLint.Data

/-- The common keys of two values can be followed down any number of times. -/
def Endless (links : List Link) (left right : Value) : Prop :=
  ∀ steps, leadOn links steps left.stop right.stop = true

variable {links : List Link}

theorem leadOn_succ {steps : Nat} {left right : Stop} :
    leadOn links (steps + 1) left right = true ↔ ∃ one ∈ left.next links,
      ∃ other ∈ right.next links, one.1.same other.1 = true ∧
        leadOn links steps one.2 other.2 = true := by
  simp only [leadOn, List.any_eq_true, Bool.and_eq_true]

/-- Fewer steps can be taken as well. -/
theorem leadOn_anti {fewer steps : Nat} (le : fewer ≤ steps) {left right : Stop}
    (leads : leadOn links steps left right = true) : leadOn links fewer left right = true := by
  induction steps generalizing fewer left right with
  | zero =>
    obtain rfl := Nat.le_zero.mp le
    rfl
  | succ steps ih =>
    cases fewer with
    | zero => rfl
    | succ fewer =>
      obtain ⟨one, first, other, second, same, onwards⟩ := leadOn_succ.mp leads
      exact leadOn_succ.mpr
        ⟨one, first, other, second, same, ih (Nat.le_of_succ_le_succ le) onwards⟩

/-! ### Mappings that contain themselves -/

theorem mem_next_known {number : Nat} {key : Scalar} {stop : Stop} :
    (key, stop) ∈ (Stop.known number).next links ↔
      ∃ link ∈ links, link.source = number ∧ link.key = key ∧ stop = .known link.target := by
  rw [Stop.next, List.mem_map]
  constructor
  · rintro ⟨link, among, same⟩
    obtain ⟨member, starts⟩ := List.mem_filter.mp among
    obtain ⟨rfl, rfl⟩ := Prod.mk.inj same
    exact ⟨link, member, of_decide_eq_true starts, rfl, rfl⟩
  · rintro ⟨link, member, starts, rfl, rfl⟩
    exact ⟨link, List.mem_filter.mpr ⟨member, decide_eq_true starts⟩, rfl⟩

/-- The mappings that links start from. -/
def origins (links : List Link) : Finset Nat := (links.map (·.source)).toFinset

theorem mem_origins {link : Link} (member : link ∈ links) : link.source ∈ origins links :=
  List.mem_toFinset.mpr (List.mem_map.mpr ⟨link, member, rfl⟩)

theorem card_origins (links : List Link) : (origins links).card ≤ links.length := by
  refine (List.toFinset_card_le _).trans ?_
  rw [List.length_map]

/-- The pairs from which more than so many steps can be taken. -/
def livePairs (links : List Link) (steps : Nat) : Finset (Nat × Nat) :=
  (origins links ×ˢ origins links).filter fun pair =>
    leadOn links (steps + 1) (.known pair.1) (.known pair.2) = true

theorem mem_livePairs {steps : Nat} {pair : Nat × Nat} : pair ∈ livePairs links steps ↔
    leadOn links (steps + 1) (.known pair.1) (.known pair.2) = true := by
  refine ⟨fun live => (Finset.mem_filter.mp live).2, fun leads => Finset.mem_filter.mpr ⟨?_, leads⟩⟩
  obtain ⟨one, first, other, second, -⟩ := leadOn_succ.mp leads
  obtain ⟨link, member, starts, -⟩ := mem_next_known.mp first
  obtain ⟨another, among, begins, -⟩ := mem_next_known.mp second
  rw [Finset.mem_product, ← starts, ← begins]
  exact ⟨mem_origins member, mem_origins among⟩

/-- From one step to the next, a pair stays if a pair that it leads to was there. -/
theorem mem_livePairs_succ {steps : Nat} {pair : Nat × Nat} :
    pair ∈ livePairs links (steps + 1) ↔ ∃ one ∈ links, ∃ other ∈ links, one.source = pair.1 ∧
      other.source = pair.2 ∧ one.key.same other.key = true ∧
      (one.target, other.target) ∈ livePairs links steps := by
  rw [mem_livePairs, leadOn_succ]
  constructor
  · rintro ⟨⟨key, stop⟩, first, ⟨name, place⟩, second, same, onwards⟩
    obtain ⟨one, member, starts, rfl, rfl⟩ := mem_next_known.mp first
    obtain ⟨other, among, begins, rfl, rfl⟩ := mem_next_known.mp second
    exact ⟨one, member, other, among, starts, begins, same, mem_livePairs.mpr onwards⟩
  · rintro ⟨one, member, other, among, starts, begins, same, live⟩
    exact ⟨_, mem_next_known.mpr ⟨one, member, starts, rfl, rfl⟩,
      _, mem_next_known.mpr ⟨other, among, begins, rfl, rfl⟩, same, mem_livePairs.mp live⟩

theorem livePairs_anti : Antitone (livePairs links) := by
  intro fewer steps le pair live
  rw [mem_livePairs] at live ⊢
  exact leadOn_anti (Nat.succ_le_succ le) live

/-- What has stayed the same once stays the same from then on. -/
theorem livePairs_stays {steps : Nat} (stays : livePairs links steps = livePairs links (steps + 1)) :
    livePairs links (steps + 1) = livePairs links (steps + 2) := by
  ext pair
  rw [mem_livePairs_succ, mem_livePairs_succ, stays]

theorem eq_of_card_livePairs {fewer steps : Nat} (le : fewer ≤ steps)
    (same : (livePairs links fewer).card = (livePairs links steps).card) :
    livePairs links steps = livePairs links fewer :=
  Finset.eq_of_subset_of_card_le (livePairs_anti le) same.le

/-- A pair from which more steps can be taken than there are pairs leads on without end. -/
theorem leadOn_known {left right : Nat}
    (leads : leadOn links (links.length * links.length + 1) (.known left) (.known right) = true)
    (steps : Nat) : leadOn links steps (.known left) (.known right) = true := by
  have counts : Antitone fun steps => (livePairs links steps).card :=
    fun fewer steps le => Finset.card_le_card (livePairs_anti le)
  obtain ⟨last, early, flat⟩ := Nat.stabilises_of_antitone counts fun steps same => by
    have stays := (eq_of_card_livePairs (Nat.le_succ steps) same).symm
    exact congrArg Finset.card (livePairs_stays stays)
  have few : (livePairs links 0).card ≤ links.length * links.length := by
    refine (Finset.card_filter_le _ _).trans ?_
    rw [Finset.card_product]
    exact Nat.mul_le_mul (card_origins links) (card_origins links)
  have live : (left, right) ∈ livePairs links last :=
    livePairs_anti (early.trans few) (mem_livePairs.mpr leads)
  -- no pair is lost after the last step that counts
  have later : (left, right) ∈ livePairs links (last + steps) := by
    rw [eq_of_card_livePairs (Nat.le_add_right last steps) (flat _ (Nat.le_add_right ..)).symm]
    exact live
  exact leadOn_anti (by omega) (mem_livePairs.mp later)

/-! ### Other mappings -/

theorem depth_le_of_mem {entries : Entries} {entry : Scalar × Value} (member : entry ∈ entries) :
    entry.2.depth ≤ depthOfEntries entries := by
  induction entries with
  | nil => cases member
  | cons first rest ih =>
    obtain ⟨key, value⟩ := first
    rw [depthOfEntries]
    rcases List.mem_cons.mp member with rfl | later
    · exact Nat.le_max_left ..
    · exact (ih later).trans (Nat.le_max_right ..)

theorem depth_stop_le (value : Value) : value.stop.depth ≤ value.depth := by
  unfold Value.stop
  split
  · exact Nat.zero_le _
  · exact Nat.le_refl _

/-- Mappings lie less deep than the mapping they are in. -/
theorem depth_lt_of_mem_entries : {value : Value} → {entry : Scalar × Value} →
    entry ∈ value.entries → entry.2.depth < value.depth
  | .map entries, entry, member => by
    rw [Value.depth]
    exact Nat.lt_succ_of_le (depth_le_of_mem member)
  | .looped number value, entry, member => by
    rw [Value.depth]
    exact @depth_lt_of_mem_entries value entry member
  | .scalar _, _, member | .list _, _, member | .tuple _, _, member | .set _, _, member => by
    cases member

theorem depth_lt_of_next {value : Value} {key : Scalar} {stop : Stop}
    (next : (key, stop) ∈ (Stop.plain value).next links) : stop.depth < value.depth := by
  obtain ⟨entry, among, same⟩ := List.mem_map.mp next
  obtain ⟨-, rfl⟩ := Prod.mk.inj same
  exact (depth_stop_le _).trans_lt (depth_lt_of_mem_entries (List.mem_filter.mp among).1)

theorem depth_le_of_next {left stop : Stop} {key : Scalar} (next : (key, stop) ∈ left.next links) :
    stop.depth ≤ left.depth := by
  cases left with
  | known number =>
    obtain ⟨_, _, _, _, rfl⟩ := mem_next_known.mp next
    exact Nat.le_refl 0
  | plain value => exact (depth_lt_of_next next).le

/-- Unless both are mappings that contain themselves, what comes next lies less deep. -/
theorem known_or_lower (links : List Link) : (left right : Stop) →
    (∃ number other, left = .known number ∧ right = .known other) ∨
      ∀ one ∈ left.next links, ∀ other ∈ right.next links,
        one.2.depth + other.2.depth < left.depth + right.depth
  | .known number, .known other => .inl ⟨number, other, rfl, rfl⟩
  | .plain _, _ => .inr fun _ first _ second =>
    Nat.add_lt_add_of_lt_of_le (depth_lt_of_next first) (depth_le_of_next second)
  | .known _, .plain _ => .inr fun _ first _ second =>
    Nat.add_lt_add_of_le_of_lt (depth_le_of_next first) (depth_lt_of_next second)

/-- Two ways that can be gone on for long enough have no end. -/
theorem leadOn_of_enough {left right : Stop}
    (leads : leadOn links (links.length * links.length + 1 + (left.depth + right.depth)) left right =
      true) (steps : Nat) : leadOn links steps left right = true := by
  -- by induction on the depth above the mappings that contain themselves
  induction depth : left.depth + right.depth using Nat.strong_induction_on
    generalizing left right steps with
  | _ depth ih =>
    subst depth
    rcases known_or_lower links left right with ⟨number, other, rfl, rfl⟩ | lower
    · exact leadOn_known leads steps
    · cases steps with
      | zero => rfl
      | succ steps =>
        rw [Nat.add_right_comm] at leads
        obtain ⟨one, first, other, second, same, onwards⟩ := leadOn_succ.mp leads
        have less := lower one first other second
        -- one level down, one step less is still enough
        have further := ih _ less (leadOn_anti (by omega) onwards) steps rfl
        exact leadOn_succ.mpr ⟨one, first, other, second, same, further⟩

/-- Only mappings lead on. -/
theorem next_of_not_isMap {value : Value} (single : value.isMap = false) :
    value.stop.next links = [] := by
  have unnumbered : value.number? = none := by
    cases value with
    | looped number value =>
      have inner : value.isMap = false := single
      simp [Value.number?, inner]
    | _ => rfl
  simp [Value.stop, unnumbered, Stop.next, Value.entries_of_not_isMap single]

/-- It does not matter which of two values comes first. -/
theorem leadOn_comm {steps : Nat} {left right : Stop} :
    leadOn links steps left right = true → leadOn links steps right left = true := by
  induction steps generalizing left right with
  | zero => exact id
  | succ steps ih =>
    intro leads
    obtain ⟨one, first, other, second, same, onwards⟩ := leadOn_succ.mp leads
    rw [Scalar.same_comm] at same
    exact leadOn_succ.mpr ⟨other, second, one, first, same, ih onwards⟩

namespace Endless

variable {left right : Value}

theorem symm (endless : Endless links left right) : Endless links right left :=
  fun steps => leadOn_comm (endless steps)

theorem isMap (endless : Endless links left right) : left.isMap = true := by
  obtain ⟨one, next, -⟩ := leadOn_succ.mp (endless 1)
  cases shape : left.isMap with
  | true => rfl
  | false =>
    rw [next_of_not_isMap shape] at next
    cases next

end Endless

/-- The test tells whether two values lead on together without end. -/
theorem leadOnForever_iff {left right : Value} :
    leadOnForever links left right = true ↔ Endless links left right :=
  ⟨fun leads steps => leadOn_of_enough leads steps, fun endless => endless _⟩

end SpecLint.Data
