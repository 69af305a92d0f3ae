import Mathlib.Data.List.Basic
import SpecLint.Proofs.Path.Spelling
import SpecLint.Routine.Branches

/-!
# Which storage a guard tests and which one it fills

A guard of a memoized value tests a storage and returns or assigns one: an instance variable, or an
element that is reached from one by literal keys. Whether the two are the same is decided by
comparing how they are written, with the bare texts of the keys between commas and brackets. This
tells the variables apart, but not a symbol from a string, and keys that contain a comma or an
opening bracket may read like several keys.

## Main results

* `isMemoizationGuard_iff_written`: the conditionals that are guards, and what is the same for two
  storages that are written alike.
* `Guards.unique`: a conditional tests one storage and fills one.
-/
namespace SpecLint

/-! ### Joined texts -/

namespace Text

theorem joinWith_eq_intercalate (separator : List Char) (pieces : List (List Char)) :
    joinWith separator pieces = separator.intercalate pieces := by
  induction pieces with
  | nil => rfl
  | cons piece pieces ih =>
    cases pieces with
    | nil => rw [joinWith, List.intercalate_singleton]
    | cons next rest =>
      rw [joinWith, ih, List.intercalate_cons_cons]
      · simp

/-- Behind the first piece, every piece has its separator in front. -/
theorem intercalate_cons_eq (separator : Char) (first : List Char) (pieces : List (List Char)) :
    [separator].intercalate (first :: pieces) = first ++ pieces.flatMap (separator :: ·) := by
  induction pieces generalizing first with
  | nil => rw [List.intercalate_singleton, List.flatMap_nil, List.append_nil]
  | cons piece pieces ih =>
    rw [List.intercalate_cons_cons, ih, List.flatMap_cons]
    simp

theorem not_mem_joinWith {c separator : Char} {pieces : List (List Char)} (other : c ≠ separator)
    (clean : ∀ piece ∈ pieces, c ∉ piece) : c ∉ joinWith [separator] pieces := by
  rw [joinWith_eq_intercalate]
  cases pieces with
  | nil => exact List.not_mem_nil
  | cons first pieces =>
    obtain ⟨here, others⟩ := List.forall_mem_cons.mp clean
    rw [intercalate_cons_eq]
    simp only [List.mem_append, List.mem_flatMap, List.mem_cons, not_or, not_exists, not_and]
    exact ⟨here, fun piece member => ⟨other, others piece member⟩⟩

end Text

namespace Routine

open SpecLint.Code

/-! ### Storages and conditionals -/

inductive LiteralKind where
  | symbol
  | string
  deriving DecidableEq, Repr

/-- A literal key of an element. -/
structure Literal where
  kind : LiteralKind
  text : String
  deriving DecidableEq, Repr

def Literal.ofNode? : Node → Option Literal
  | .symbol value _ => some ⟨.symbol, value⟩
  | .str value _ => value.map fun text => ⟨.string, text⟩
  | _ => none

/-- An instance variable, and the keys of each element reference behind it. -/
structure FieldReference where
  field : String
  indices : List (List Literal)
  deriving DecidableEq, Repr

namespace FieldReference

def ofNode? : Node → Option FieldReference
  | .instanceVar name _ => some ⟨name, []⟩
  | .index receiver args _ => do
    let base ← ofNode? receiver
    let keys ← args.mapM Literal.ofNode?
    return ⟨base.field, base.indices ++ [keys]⟩
  | _ => none

/-- The bare texts of some keys, with commas between them. -/
def joined (keys : List Literal) : List Char :=
  Text.joinWith [','] (keys.map fun key => key.text.toList)

def written (reference : FieldReference) : List Char :=
  reference.field.toList ++ reference.indices.flatMap fun keys => '[' :: (joined keys ++ [']'])

/-- No opening bracket, and no comma in the keys. -/
structure Plain (reference : FieldReference) : Prop where
  field : '[' ∉ reference.field.toList
  brackets : ∀ keys ∈ reference.indices, ∀ key ∈ keys, '[' ∉ key.text.toList
  commas : ∀ keys ∈ reference.indices, ∀ key ∈ keys, ',' ∉ key.text.toList

/-- The texts of some keys; no keys are written like one empty text. -/
def keyTexts (keys : List Literal) : List String :=
  if keys = [] then [""] else keys.map (·.text)

/-- The texts of the keys, index by index. -/
def texts (reference : FieldReference) : List (List String) := reference.indices.map keyTexts

end FieldReference

open FieldReference

/-- `@x`, `defined?(@x)` and `@x.present?`. -/
inductive AsksIfSet : Node → FieldReference → Prop
  | itself {node : Node} {reference : FieldReference} (names : ofNode? node = some reference) :
      AsksIfSet node reference
  | defined {operand : Node} {loc : Option Location} {reference : FieldReference}
      (names : ofNode? operand = some reference) : AsksIfSet (.defined operand loc) reference
  | present {receiver : Node} {attached : Option Node} {loc : Option Location}
      {reference : FieldReference} (names : ofNode? receiver = some reference) :
      AsksIfSet (.call (some receiver) "present?" [] attached loc) reference

/-- `@x.nil?`, `@x.blank?` and `@x.empty?`. -/
inductive AsksIfUnset : Node → FieldReference → Prop
  | question {receiver : Node} {name : String} {attached : Option Node} {loc : Option Location}
      {reference : FieldReference} (isQuestion : name ∈ ["nil?", "blank?", "empty?"])
      (names : ofNode? receiver = some reference) :
      AsksIfUnset (.call (some receiver) name [] attached loc) reference

/-- The storage that the condition of a conditional tests, and the one that its only statement
returns or assigns. -/
inductive Guards (form : Branching) (orelse : Option (List Node)) :
    (negated : Bool) → (condition statement : Node) → (tested filled : FieldReference) → Prop
  | returns {condition value : Node} {loc : Option Location} {tested filled : FieldReference}
      (isModifier : form = .modifier) (asks : AsksIfSet condition tested)
      (fills : ofNode? value = some filled) :
      Guards form orelse false condition (.returned (some value) loc) tested filled
  | assignsUnlessSet {condition target value : Node} {loc : Option Location}
      {tested filled : FieldReference} (noElse : orelse.getD [] = [])
      (asks : AsksIfSet condition tested) (fills : ofNode? target = some filled) :
      Guards form orelse true condition (.assign target value loc) tested filled
  | assignsIfUnset {condition target value : Node} {loc : Option Location}
      {tested filled : FieldReference} (noElse : orelse.getD [] = [])
      (asks : AsksIfUnset condition tested) (fills : ofNode? target = some filled) :
      Guards form orelse false condition (.assign target value loc) tested filled

/-! ### One storage -/

theorem literal?_eq (node : Node) : node.literal? = (Literal.ofNode? node).map (·.text) := by
  cases node with
  | str value loc => cases value <;> rfl
  | _ => rfl

theorem mapM_literal?_eq (nodes : List Node) :
    nodes.mapM Node.literal? = (nodes.mapM Literal.ofNode?).map fun keys => keys.map (·.text) := by
  induction nodes with
  | nil => rfl
  | cons node nodes ih =>
    rw [List.mapM_cons, List.mapM_cons, ih, literal?_eq]
    cases Literal.ofNode? node with
    | none => rfl
    | some key => cases nodes.mapM Literal.ofNode? <;> rfl

theorem fieldKey?_eq_written (node : Node) : fieldKey? node = (ofNode? node).map written := by
  induction node using Node.induction with
  | step node ih =>
    cases node with
    | instanceVar name loc => simp [fieldKey?, ofNode?, written]
    | index receiver args loc =>
      rw [fieldKey?, ofNode?, ih receiver List.mem_cons_self, mapM_literal?_eq]
      cases ofNode? receiver with
      | none => rfl
      | some base =>
        cases args.mapM Literal.ofNode? with
        | none => rfl
        | some keys => simp [written, joined, Function.comp_def]
    | _ => rfl

theorem fieldKey?_eq_some_iff {node : Node} {key : List Char} :
    fieldKey? node = some key ↔
      ∃ reference, ofNode? node = some reference ∧ reference.written = key := by
  rw [fieldKey?_eq_written, Option.map_eq_some_iff]

theorem stores_iff {key : List Char} {node : Option Node} :
    stores key node = true ↔
      ∃ target reference, node = some target ∧ ofNode? target = some reference ∧
        reference.written = key := by
  cases node with
  | none => simp [stores]
  | some target => simp [stores, fieldKey?_eq_some_iff]

/-! ### Conditions -/

theorem asksComputed_iff {key : List Char} {condition : Option Node} :
    asksComputed key condition = true ↔
      ∃ asked tested, condition = some asked ∧ AsksIfSet asked tested ∧ tested.written = key := by
  constructor
  · intro asks
    unfold asksComputed at asks
    split at asks
    next operand loc =>
      obtain ⟨_, tested, ⟨rfl⟩, names, same⟩ := stores_iff.mp asks
      exact ⟨_, tested, rfl, .defined names, same⟩
    next receiver name args attached loc =>
      simp only [Bool.and_eq_true, List.isEmpty_iff] at asks
      obtain ⟨⟨isQuestion, rfl⟩, stored⟩ := asks
      obtain rfl : name = "present?" := by simpa [presentPredicates] using isQuestion
      obtain ⟨target, tested, rfl, names, same⟩ := stores_iff.mp stored
      exact ⟨_, tested, rfl, .present names, same⟩
    next =>
      obtain ⟨target, tested, rfl, names, same⟩ := stores_iff.mp asks
      exact ⟨target, tested, rfl, .itself names, same⟩
  · rintro ⟨asked, tested, rfl, asks, rfl⟩
    cases asks with
    | itself names =>
      -- what names a storage is a variable or an element
      have stored := stores_iff.mpr ⟨asked, tested, rfl, names, rfl⟩
      cases asked with
      | instanceVar name loc => exact stored
      | index receiver args loc => exact stored
      | _ => simp [ofNode?] at names
    | defined names => exact stores_iff.mpr ⟨_, tested, rfl, names, rfl⟩
    | present names =>
      have stored := stores_iff.mpr ⟨_, tested, rfl, names, rfl⟩
      simp [asksComputed, presentPredicates, stored]

theorem asksMissing_iff {key : List Char} {condition : Option Node} :
    asksMissing key condition = true ↔
      ∃ asked tested, condition = some asked ∧ AsksIfUnset asked tested ∧ tested.written = key := by
  constructor
  · intro asks
    unfold asksMissing at asks
    split at asks
    next receiver name args attached loc =>
      simp only [Bool.and_eq_true, List.isEmpty_iff] at asks
      obtain ⟨⟨isQuestion, rfl⟩, stored⟩ := asks
      obtain ⟨target, tested, rfl, names, same⟩ := stores_iff.mp stored
      exact ⟨_, tested, rfl, .question (List.contains_iff_mem.mp isQuestion) names, same⟩
    next => cases asks
  · rintro ⟨asked, tested, rfl, ⟨isQuestion, names⟩, rfl⟩
    have stored := stores_iff.mpr ⟨_, tested, rfl, names, rfl⟩
    have isPredicate := List.contains_iff_mem.mpr isQuestion
    simp only [asksMissing, Bool.and_eq_true, List.isEmpty_nil, stored, and_true]
    exact isPredicate

/-! ### Guards -/

variable {form : Branching} {arms : List Node} {orelse : Option (List Node)} {negated : Bool}

theorem guardsReturn_iff : guardsReturn arms = true ↔
    ∃ condition value loc inner tested filled,
      arms = [.arm (some condition) [.returned (some value) loc] inner] ∧
        AsksIfSet condition tested ∧ ofNode? value = some filled ∧
        tested.written = filled.written := by
  constructor
  · intro guards
    unfold guardsReturn at guards
    split at guards
    next condition result loc inner =>
      split at guards
      next key stored =>
        obtain ⟨asked, tested, rfl, asks, same⟩ := asksComputed_iff.mp guards
        obtain ⟨value, rfl, found⟩ := Option.bind_eq_some_iff.mp stored
        obtain ⟨filled, fills, rfl⟩ := fieldKey?_eq_some_iff.mp found
        exact ⟨asked, value, loc, inner, tested, filled, rfl, asks, fills, same⟩
      next => cases guards
    next => cases guards
  · rintro ⟨condition, value, loc, inner, tested, filled, rfl, asks, fills, same⟩
    have stored := fieldKey?_eq_some_iff.mpr ⟨filled, fills, rfl⟩
    have computed := asksComputed_iff.mpr ⟨condition, tested, rfl, asks, same⟩
    simp only [guardsReturn, Option.bind_some, stored, computed]

/-- What the condition of an assignment has to ask, by the sense of the conditional. -/
theorem asks_iff {key : List Char} {condition : Option Node} :
    (if negated then asksComputed key condition else asksMissing key condition) = true ↔
      ∃ asked tested, condition = some asked ∧
        (if negated then AsksIfSet asked tested else AsksIfUnset asked tested) ∧
        tested.written = key := by
  cases negated with
  | true => exact asksComputed_iff
  | false => exact asksMissing_iff

/-- An `else` without statements counts as none. -/
theorem guardsAssignment_single {condition : Option Node} {target value : Node}
    {loc inner : Option Location} (noElse : orelse.getD [] = []) :
    guardsAssignment [.arm condition [.assign target value loc] inner] orelse negated =
      (fieldKey? target).any fun key =>
        if negated then asksComputed key condition else asksMissing key condition := by
  cases orelse with
  | none =>
    rw [guardsAssignment]
    cases fieldKey? target <;> rfl
  | some statements =>
    obtain rfl : statements = [] := noElse
    rw [guardsAssignment]
    cases fieldKey? target <;> rfl

theorem exists_assign_of_guardsAssignment (guards : guardsAssignment arms orelse negated = true) :
    orelse.getD [] = [] ∧ ∃ condition target value loc inner,
      arms = [.arm condition [.assign target value loc] inner] := by
  unfold guardsAssignment at guards
  split at guards
  next condition target value loc inner => exact ⟨rfl, condition, target, value, loc, inner, rfl⟩
  next condition target value loc inner => exact ⟨rfl, condition, target, value, loc, inner, rfl⟩
  next => cases guards

theorem guardsAssignment_iff : guardsAssignment arms orelse negated = true ↔
    ∃ condition target value loc inner tested filled,
      arms = [.arm (some condition) [.assign target value loc] inner] ∧ orelse.getD [] = [] ∧
        (if negated then AsksIfSet condition tested else AsksIfUnset condition tested) ∧
        ofNode? target = some filled ∧ tested.written = filled.written := by
  constructor
  · intro guards
    obtain ⟨noElse, condition, target, value, loc, inner, rfl⟩ :=
      exists_assign_of_guardsAssignment guards
    rw [guardsAssignment_single noElse] at guards
    obtain ⟨key, stored, asked⟩ := (Option.any_eq_true _ _).mp guards
    obtain ⟨question, tested, rfl, asks, same⟩ := asks_iff.mp asked
    obtain ⟨filled, fills, rfl⟩ := fieldKey?_eq_some_iff.mp stored
    exact ⟨question, target, value, loc, inner, tested, filled, rfl, noElse, asks, fills, same⟩
  · rintro ⟨condition, target, value, loc, inner, tested, filled, rfl, noElse, asks, fills, same⟩
    have stored := fieldKey?_eq_some_iff.mpr ⟨filled, fills, rfl⟩
    have asked := asks_iff.mpr ⟨condition, tested, rfl, asks, same⟩
    rw [guardsAssignment_single noElse]
    exact (Option.any_eq_true _ _).mpr ⟨filled.written, stored, asked⟩

/-- A guard is a conditional whose two storages are written alike. -/
theorem isMemoizationGuard_iff_guards {loc : Option Location} :
    isMemoizationGuard (.conditional form arms orelse negated loc) = true ↔
      form ≠ .ternary ∧ ∃ condition statement inner tested filled,
        arms = [.arm (some condition) [statement] inner] ∧
          Guards form orelse negated condition statement tested filled ∧
          tested.written = filled.written := by
  simp only [isMemoizationGuard, Bool.and_eq_true, Bool.or_eq_true, decide_eq_true_eq,
    Bool.not_eq_true', guardsReturn_iff, guardsAssignment_iff]
  refine and_congr_right fun _ => ?_
  constructor
  · rintro (⟨⟨isModifier, rfl⟩, condition, value, loc, inner, tested, filled, rfl, asks, fills,
        same⟩ | ⟨condition, target, value, loc, inner, tested, filled, rfl, noElse, asks, fills,
        same⟩)
    · exact ⟨condition, _, inner, tested, filled, rfl, .returns isModifier asks fills, same⟩
    · cases negated with
      | true =>
        exact ⟨condition, _, inner, tested, filled, rfl, .assignsUnlessSet noElse asks fills, same⟩
      | false =>
        exact ⟨condition, _, inner, tested, filled, rfl, .assignsIfUnset noElse asks fills, same⟩
  · rintro ⟨condition, statement, inner, tested, filled, rfl, guards, same⟩
    cases guards with
    | returns isModifier asks fills =>
      exact .inl ⟨⟨isModifier, rfl⟩, condition, _, _, inner, tested, filled, rfl, asks, fills, same⟩
    | assignsUnlessSet noElse asks fills =>
      exact .inr ⟨condition, _, _, _, inner, tested, filled, rfl, noElse, asks, fills, same⟩
    | assignsIfUnset noElse asks fills =>
      exact .inr ⟨condition, _, _, _, inner, tested, filled, rfl, noElse, asks, fills, same⟩

/-! ### One storage tested, one storage filled -/

theorem AsksIfSet.unique {condition : Node} {first second : FieldReference}
    (asks : AsksIfSet condition first) (again : AsksIfSet condition second) : first = second := by
  cases asks with
  | itself names =>
    cases again with
    | itself other => exact Option.some.inj (names.symm.trans other)
    | defined other => simp [ofNode?] at names
    | present other => simp [ofNode?] at names
  | defined names =>
    cases again with
    | itself other => simp [ofNode?] at other
    | defined other => exact Option.some.inj (names.symm.trans other)
  | present names =>
    cases again with
    | itself other => simp [ofNode?] at other
    | present other => exact Option.some.inj (names.symm.trans other)

theorem AsksIfUnset.unique {condition : Node} {first second : FieldReference}
    (asks : AsksIfUnset condition first) (again : AsksIfUnset condition second) :
    first = second := by
  obtain ⟨-, names⟩ := asks
  obtain ⟨-, other⟩ := again
  exact Option.some.inj (names.symm.trans other)

theorem Guards.unique {condition statement : Node} {tested filled other another : FieldReference}
    (guards : Guards form orelse negated condition statement tested filled)
    (again : Guards form orelse negated condition statement other another) :
    tested = other ∧ filled = another := by
  cases guards with
  | returns _ asks fills =>
    cases again with
    | returns _ later same =>
      exact ⟨asks.unique later, Option.some.inj (fills.symm.trans same)⟩
  | assignsUnlessSet _ asks fills =>
    cases again with
    | assignsUnlessSet _ later same =>
      exact ⟨asks.unique later, Option.some.inj (fills.symm.trans same)⟩
  | assignsIfUnset _ asks fills =>
    cases again with
    | assignsIfUnset _ later same =>
      exact ⟨asks.unique later, Option.some.inj (fills.symm.trans same)⟩

/-! ### Storages that are written alike -/

namespace FieldReference

variable {reference other : FieldReference}

theorem joined_eq_keyTexts (keys : List Literal) :
    joined keys = Text.joinWith [','] ((keyTexts keys).map String.toList) := by
  unfold joined keyTexts
  by_cases noKeys : keys = []
  · subst noKeys
    rfl
  · rw [if_neg noKeys, List.map_map]
    rfl

/-- A storage is written from its variable and the texts of its keys. -/
theorem written_eq_texts (reference : FieldReference) :
    reference.written = reference.field.toList ++ reference.texts.flatMap fun texts =>
      '[' :: (Text.joinWith [','] (texts.map String.toList) ++ [']']) := by
  simp only [written, texts, List.flatMap_map, joined_eq_keyTexts]

theorem Plain.splitOn_written (plain : reference.Plain) :
    Text.splitOn '[' reference.written =
      reference.field.toList :: reference.indices.map fun keys => joined keys ++ [']'] := by
  rw [written, ← List.flatMap_map (fun keys => joined keys ++ [']']) ('[' :: ·),
    ← Text.intercalate_cons_eq]
  refine Text.splitOn_intercalate ?_ (List.cons_ne_nil _ _)
  refine List.forall_mem_cons.mpr ⟨plain.field, List.forall_mem_map.mpr fun keys member => ?_⟩
  have clean : '[' ∉ joined keys :=
    Text.not_mem_joinWith (by decide) (List.forall_mem_map.mpr (plain.brackets keys member))
  simpa using clean

theorem Plain.splitOn_joined (plain : reference.Plain) {keys : List Literal}
    (member : keys ∈ reference.indices) :
    Text.splitOn ',' (joined keys) = (keyTexts keys).map String.toList := by
  by_cases noKeys : keys = []
  · subst noKeys
    rfl
  · rw [joined, Text.joinWith_eq_intercalate, keyTexts, if_neg noKeys, List.map_map]
    exact Text.splitOn_intercalate (List.forall_mem_map.mpr (plain.commas keys member))
      (by simpa using noKeys)

/-- What is written behind the variable gives the texts of the keys back. -/
theorem Plain.map_splitOn (plain : reference.Plain) :
    (reference.indices.map fun keys => joined keys ++ [']']).map
        (fun piece => Text.splitOn ',' piece.dropLast) =
      reference.texts.map (List.map String.toList) := by
  rw [texts, List.map_map, List.map_map]
  refine List.map_congr_left fun keys member => ?_
  rw [Function.comp_apply, Function.comp_apply, List.dropLast_concat]
  exact plain.splitOn_joined member

/-- Plain storages are written alike if they have the same variable and, index by index, keys with
the same texts. -/
theorem Plain.written_eq_iff (plain : reference.Plain) (otherPlain : other.Plain) :
    reference.written = other.written ↔
      reference.field = other.field ∧ reference.texts = other.texts := by
  constructor
  · intro same
    -- cut at the brackets first, and at the commas then
    have cut := congrArg (Text.splitOn '[') same
    rw [plain.splitOn_written, otherPlain.splitOn_written] at cut
    obtain ⟨sameField, samePieces⟩ := List.cons.inj cut
    have sameTexts := congrArg
      (List.map fun piece : List Char => Text.splitOn ',' piece.dropLast) samePieces
    rw [plain.map_splitOn, otherPlain.map_splitOn] at sameTexts
    have injective : Function.Injective (List.map String.toList) :=
      List.map_injective_iff.mpr fun _ _ => String.toList_inj.mp
    exact ⟨String.toList_inj.mp sameField, List.map_injective_iff.mpr injective sameTexts⟩
  · rintro ⟨sameField, sameTexts⟩
    rw [written_eq_texts, written_eq_texts, sameField, sameTexts]

end FieldReference

/-- A conditional is a guard exactly if the storage that its condition tests is written like the one
that its only statement returns or assigns. For storages without commas and opening brackets that
means the same variable and, index by index, the same texts of the keys; symbols and strings are not
told apart. -/
theorem isMemoizationGuard_iff_written (form : Branching) (arms : List Node)
    (orelse : Option (List Node)) (negated : Bool) (loc : Option Location) :
    (isMemoizationGuard (.conditional form arms orelse negated loc) = true ↔
      form ≠ .ternary ∧ ∃ condition statement inner tested filled,
        arms = [.arm (some condition) [statement] inner] ∧
          Guards form orelse negated condition statement tested filled ∧
          tested.written = filled.written) ∧
      (∀ node, fieldKey? node = (ofNode? node).map written) ∧
      ∀ tested filled : FieldReference, tested.Plain → filled.Plain →
        (tested.written = filled.written ↔
          tested.field = filled.field ∧ tested.texts = filled.texts) :=
  ⟨isMemoizationGuard_iff_guards, fieldKey?_eq_written,
    fun _ _ plain otherPlain => plain.written_eq_iff otherPlain⟩

/-- The element of an instance variable under some keys. -/
def element (keys : List Node) : Node := .index (.instanceVar "@x" none) keys none

/-- Return one element if another one holds something. -/
def returnGuard (asked value : Node) : Node :=
  .conditional .modifier [.arm (some asked) [.returned (some value) none] none] none false none

/-- A symbol and a string with the same text are written alike. -/
theorem isMemoizationGuard_iff_written_kinds :
    let asked : FieldReference := ⟨"@x", [[⟨.string, "a"⟩]]⟩
    let value : FieldReference := ⟨"@x", [[⟨.symbol, "a"⟩]]⟩
    asked.Plain ∧ value.Plain ∧ asked.written = value.written ∧
      isMemoizationGuard (returnGuard (element [.str "a" none]) (element [.symbol "a" none])) =
        true := by
  intro asked value
  have askedPlain : asked.Plain := by constructor <;> decide
  have valuePlain : value.Plain := by constructor <;> decide
  have rule := isMemoizationGuard_iff_written .modifier
    [.arm (some (element [.str "a" none]))
      [.returned (some (element [.symbol "a" none])) none] none] none false none
  have same : asked.written = value.written :=
    (rule.2.2 asked value askedPlain valuePlain).mpr ⟨rfl, rfl⟩
  have guards : Guards .modifier none false (element [.str "a" none])
      (.returned (some (element [.symbol "a" none])) none) asked value :=
    .returns rfl (.itself rfl) rfl
  exact ⟨askedPlain, valuePlain, same,
    rule.1.mpr ⟨by decide, _, _, none, asked, value, rfl, guards, same⟩⟩

/-- One key that contains a comma is taken for two keys, so the element that is returned is not the
one that is tested. -/
theorem two_keys_for_one :
    let asked := element [.str "a,b" none]
    let value := element [.str "a" none, .str "b" none]
    isMemoizationGuard (returnGuard asked value) = true ∧
      ¬∃ storage,
        Guards .modifier none false asked (.returned (some value) none) storage storage := by
  intro asked value
  have accepted : isMemoizationGuard (returnGuard asked value) = true := by decide +kernel
  have guards : Guards .modifier none false asked (.returned (some value) none)
      ⟨"@x", [[⟨.string, "a,b"⟩]]⟩ ⟨"@x", [[⟨.string, "a"⟩, ⟨.string, "b"⟩]]⟩ :=
    .returns rfl (.itself rfl) rfl
  refine ⟨accepted, ?_⟩
  rintro ⟨storage, same⟩
  obtain ⟨rfl, other⟩ := same.unique guards
  exact absurd other (by decide)

end Routine

end SpecLint
