import Mathlib.Data.List.Forall2

/-!
# Steps that may fail

Steps in a row and traversals of a list fail with the first step that fails, and succeed if all of
their steps do.
-/
namespace SpecLint

variable {ε α β : Type}

/-! ### Two steps -/

/-- Two steps in a row succeed only if both do. -/
theorem exists_of_bind_eq_ok {first : Except ε α} {next : α → Except ε β}
    {value : β} (done : (first >>= next) = .ok value) :
    ∃ item, first = .ok item ∧ next item = .ok value := by
  cases first with
  | error fault => cases done
  | ok item => exact ⟨item, rfl, done⟩

theorem exists_of_map_eq_ok {first : Except ε α} {change : α → β} {value : β}
    (done : first.map change = .ok value) : ∃ item, first = .ok item ∧ change item = value := by
  cases first with
  | error fault => cases done
  | ok item => exact ⟨item, rfl, Except.ok.inj done⟩

theorem map_eq_error_iff {outcome : Except ε α} {change : α → β} {fault : ε} :
    outcome.map change = .error fault ↔ outcome = .error fault := by
  cases outcome <;> simp [Except.map]

theorem eq_ok_of_mapError_eq_ok {δ : Type} {outcome : Except ε α} {change : ε → δ} {value : α}
    (done : outcome.mapError change = .ok value) : outcome = .ok value := by
  cases outcome with
  | error fault => cases done
  | ok given => exact congrArg Except.ok (Except.ok.inj done)

theorem eq_ok_of_toOption {outcome : Except ε α} {value : α}
    (found : outcome.toOption = some value) : outcome = .ok value := by
  cases outcome with
  | error fault => simp [Except.toOption] at found
  | ok given => exact congrArg Except.ok (Option.some.inj found)

/-! ### Traversals -/

/-- A traversal that succeeds has a result for each item. -/
theorem exists_of_mem_mapM {items : List α} {results : List β}
    {step : α → Except ε β} (done : items.mapM step = .ok results) {item : α}
    (member : item ∈ items) : ∃ result ∈ results, step item = .ok result := by
  induction items generalizing results with
  | nil => cases member
  | cons first rest ih =>
    rw [List.mapM_cons] at done
    obtain ⟨value, here, done⟩ := exists_of_bind_eq_ok done
    obtain ⟨values, there, done⟩ := exists_of_bind_eq_ok done
    cases done
    rcases List.mem_cons.mp member with rfl | later
    · exact ⟨value, List.mem_cons_self, here⟩
    · obtain ⟨result, found, same⟩ := ih there later
      exact ⟨result, List.mem_cons_of_mem _ found, same⟩

/-- A traversal succeeds with the results of its items. -/
theorem mapM_eq_ok_iff {items : List α} {step : α → Except ε β} {results : List β} :
    items.mapM step = .ok results ↔
      List.Forall₂ (fun item result => step item = .ok result) items results := by
  constructor
  · intro done
    induction items generalizing results with
    | nil =>
      cases done
      exact .nil
    | cons item rest ih =>
      rw [List.mapM_cons] at done
      obtain ⟨value, here, done⟩ := exists_of_bind_eq_ok done
      obtain ⟨values, there, done⟩ := exists_of_bind_eq_ok done
      cases done
      exact .cons here (ih there)
  · intro each
    induction each with
    | nil => rfl
    | cons here _ ih =>
      rw [List.mapM_cons, here, ih]
      rfl

/-- Where each step that succeeds has a companion, so has the traversal. -/
theorem exists_forall₂_of_mapM {items : List α} {first second : α → Except ε β}
    {related : β → β → Prop} (companion : ∀ item value, first item = .ok value →
      ∃ other, second item = .ok other ∧ related value other)
    {results : List β} (done : items.mapM first = .ok results) :
    ∃ others, items.mapM second = .ok others ∧ List.Forall₂ related results others := by
  induction items generalizing results with
  | nil =>
    cases done
    exact ⟨[], rfl, .nil⟩
  | cons item rest ih =>
    rw [List.mapM_cons] at done
    obtain ⟨value, here, done⟩ := exists_of_bind_eq_ok done
    obtain ⟨values, there, done⟩ := exists_of_bind_eq_ok done
    cases done
    obtain ⟨other, found, isRelated⟩ := companion item value here
    obtain ⟨others, foundRest, areRelated⟩ := ih there
    refine ⟨other :: others, ?_, .cons isRelated areRelated⟩
    rw [List.mapM_cons, found, foundRest]
    rfl

/-- What a traversal finds stands in the order of the items it is found about. -/
theorem sublist_filterMap_of_mapM {γ : Type} {items : List α} {step : α → Except ε (Option β)}
    {mark : β → γ} {own : α → γ}
    (each : ∀ item result, step item = .ok (some result) → mark result = own item)
    {found : List (Option β)} (done : items.mapM step = .ok found) :
    ((found.filterMap fun result => result).map mark).Sublist (items.map own) := by
  induction items generalizing found with
  | nil =>
    cases done
    exact .slnil
  | cons item items ih =>
    rw [List.mapM_cons] at done
    obtain ⟨value, here, done⟩ := exists_of_bind_eq_ok done
    obtain ⟨values, there, done⟩ := exists_of_bind_eq_ok done
    cases done
    cases value with
    | none => exact (ih there).cons _
    | some result =>
      simp only [List.filterMap_cons, List.map_cons, each item result here]
      exact (ih there).cons_cons _

/-- Items without a finding may be left out. -/
theorem mapM_filter {items : List α} {step : α → Except ε (Option β)}
    {keep : α → Bool} (silent : ∀ item ∈ items, keep item = false → step item = .ok none) :
    (items.mapM step).map (fun found => found.filterMap fun result => result) =
      ((items.filter keep).mapM step).map fun found => found.filterMap fun result => result := by
  induction items with
  | nil => rfl
  | cons item items ih =>
    have rest := ih fun other member => silent other (List.mem_cons_of_mem _ member)
    rw [List.mapM_cons, List.filter_cons]
    cases kept : keep item with
    | false =>
      rw [silent item List.mem_cons_self kept, if_neg Bool.false_ne_true, ← rest]
      cases items.mapM step <;> rfl
    | true =>
      rw [if_pos rfl, List.mapM_cons]
      cases step item with
      | error fault => rfl
      | ok found =>
        cases first : items.mapM step <;> cases second : (items.filter keep).mapM step <;>
          simp_all [Except.map, bind, Except.bind, pure, Except.pure, List.filterMap_cons]

/-- Traversals with the same steps are the same. -/
theorem mapM_congr_mem {items : List α} {first second : α → Except ε β}
    (same : ∀ item ∈ items, first item = second item) : items.mapM first = items.mapM second := by
  induction items with
  | nil => rfl
  | cons item items ih =>
    have rest := ih fun other member => same other (List.mem_cons_of_mem _ member)
    rw [List.mapM_cons, List.mapM_cons, same item List.mem_cons_self, rest]

/-- A traversal whose steps all succeed collects what they come to. -/
theorem mapM_eq_ok_map {items : List α} {step : α → Except ε β} {result : α → β}
    (each : ∀ item ∈ items, step item = .ok (result item)) :
    items.mapM step = .ok (items.map result) := by
  rw [mapM_congr_mem each]
  exact List.mapM_pure

/-- Traversals fail alike where their steps do. -/
theorem mapM_eq_error_iff {items : List α} {first second : α → Except ε β}
    (alike : ∀ item fault, first item = .error fault ↔ second item = .error fault) (fault : ε) :
    items.mapM first = .error fault ↔ items.mapM second = .error fault := by
  induction items with
  | nil => simp [pure, Except.pure]
  | cons item items ih =>
    rw [List.mapM_cons, List.mapM_cons]
    have here := alike item
    -- the first item decides if it fails, and the others do if it does not
    cases one : first item with
    | error stops =>
      have other := (here stops).mp one
      rw [other]
      rfl
    | ok value =>
      cases two : second item with
      | error stops =>
        have stopped := (here stops).mpr two
        simp [one] at stopped
      | ok change =>
        cases inFirst : items.mapM first <;> cases inSecond : items.mapM second <;>
          simp_all [bind, Except.bind, pure, Except.pure]

/-! ### Failures -/

/-- Whether a computation fails, whatever the reason. -/
def Fails (outcome : Except ε α) : Prop := ∃ fault, outcome = .error fault

@[simp] theorem fails_error (fault : ε) : Fails (.error fault : Except ε α) := ⟨fault, rfl⟩

@[simp] theorem not_fails_ok (value : α) : ¬Fails (.ok value : Except ε α) := nofun

theorem exists_ok_of_not_fails {outcome : Except ε α} (succeeds : ¬Fails outcome) :
    ∃ value, outcome = .ok value := by
  cases outcome with
  | error fault => exact absurd (fails_error fault) succeeds
  | ok value => exact ⟨value, rfl⟩

/-- Two steps in a row fail with the first one or after it. -/
theorem fails_bind {first : Except ε α} {next : α → Except ε β} :
    Fails (first >>= next) ↔ Fails first ∨ ∃ item, first = .ok item ∧ Fails (next item) := by
  cases first with
  | error fault =>
    constructor
    · exact fun _ => .inl (fails_error fault)
    · exact fun _ => ⟨fault, rfl⟩
  | ok item =>
    constructor
    · exact fun failed => .inr ⟨item, rfl, failed⟩
    · rintro (failed | ⟨other, same, failed⟩)
      · exact absurd failed (not_fails_ok item)
      · obtain rfl := Except.ok.inj same
        exact failed

@[simp] theorem fails_map {first : Except ε α} {change : α → β} :
    Fails (first.map change) ↔ Fails first := by
  cases first <;> simp [Except.map]

/-- A traversal fails if it does on one of its items. -/
theorem fails_mapM {items : List α} {step : α → Except ε β} :
    Fails (items.mapM step) ↔ ∃ item ∈ items, Fails (step item) := by
  induction items with
  | nil => simp [pure, Except.pure]
  | cons item items ih =>
    simp only [List.mapM_cons, fails_bind, List.mem_cons, exists_eq_or_imp, ← ih]
    refine or_congr_right' fun succeeds => ?_
    obtain ⟨value, done⟩ := exists_ok_of_not_fails succeeds
    simp [done, pure, Except.pure]

/-- A fold that fails does so on some item, after those before it. -/
theorem exists_of_fails_foldlM {items : List α} {step : β → α → Except ε β} {start : β}
    (failed : Fails (items.foldlM step start)) :
    ∃ before item after state, items = before ++ item :: after ∧
      before.foldlM step start = .ok state ∧ Fails (step state item) := by
  induction items generalizing start with
  | nil => exact absurd failed (not_fails_ok start)
  | cons item items ih =>
    rw [List.foldlM_cons, fails_bind] at failed
    rcases failed with here | ⟨state, done, later⟩
    · exact ⟨[], item, items, start, rfl, rfl, here⟩
    · obtain ⟨before, other, after, found, rfl, first, failed⟩ := ih later
      refine ⟨item :: before, other, after, found, rfl, ?_, failed⟩
      rw [List.foldlM_cons, done]
      exact first

theorem fails_foldlM_append {before after : List α} {item : α} {step : β → α → Except ε β}
    {start : β} (failed : ∀ state, before.foldlM step start = .ok state → Fails (step state item)) :
    Fails ((before ++ item :: after).foldlM step start) := by
  rw [List.foldlM_append, fails_bind]
  by_cases early : Fails (before.foldlM step start)
  · exact .inl early
  · obtain ⟨state, done⟩ := exists_ok_of_not_fails early
    refine .inr ⟨state, done, ?_⟩
    rw [List.foldlM_cons, fails_bind]
    exact .inl (failed state done)

theorem fails_foldlM_iff {items : List α} {step : β → α → Except ε β} {start : β} :
    Fails (items.foldlM step start) ↔ ∃ before item after state, items = before ++ item :: after ∧
      before.foldlM step start = .ok state ∧ Fails (step state item) := by
  refine ⟨exists_of_fails_foldlM, ?_⟩
  rintro ⟨before, item, after, state, rfl, done, failed⟩
  refine fails_foldlM_append fun reached same => ?_
  rw [done] at same
  obtain rfl := Except.ok.inj same
  exact failed

end SpecLint
