import SpecLint.Code.Parsed
import SpecLint.Proofs.Spec.FocusedOuter

/-!
# Focused and skipped calls in a spec

The letter in front of the name of a call moves all nodes behind it by one byte. If the tree takes
the name for the name of a call and nothing else, then all that is asked of titles and scenarios has
the same answer. If moreover the call does not describe a constant in an outer statement, then all
that is asked of units has the same answer, too.

## Main results

`declaresUnit_focused`, `countContexts_focused` and `countUnitContexts_focused`
-/
namespace SpecLint.Spec.Focusing

open SpecLint.Code

variable (edit : Focusing)

def plainText : String := String.ofList edit.plain

def focusedText : String := String.ofList edit.focused

/-- The offset at which the name of the call begins. -/
def offset : Nat := (String.ofList edit.front).utf8ByteSize

/-- Where an offset comes to lie behind the letter. -/
def place : Nat → Nat := pushed edit.offset 1

/-- The node spans the name of the call. -/
def IsName (tree : Concrete) : Prop :=
  tree.start = edit.offset ∧ tree.stop = edit.offset + edit.word.utf8ByteSize

instance decidableIsName (tree : Concrete) : Decidable (edit.IsName tree) :=
  inferInstanceAs (Decidable (_ ∧ _))

/-- A tree that takes the name for the name of calls and for no part of a longer text. -/
structure NamesCall (tree : Concrete) : Prop where
  copied : ∀ node, Inside tree node → ∀ part ∈ copied node, KeepsClear edit.offset part
  name : ∀ node, Inside tree node → node.kind = "identifier" →
    KeepsClear edit.offset node ∨ edit.IsName node
  method : ∀ call, Inside tree call → call.kind = "call" → ∀ method ∈ call.child? "method",
    KeepsClear edit.offset method ∨ edit.IsName method

/-- No call with the name describes a constant in an outer statement. -/
def DescribesNothing (tree : Concrete) : Prop :=
  ∀ call ∈ outer tree, call.kind = "call" → ∀ method ∈ call.child? "method",
    edit.IsName method →
      describedConstant? (read (.ofBytes edit.plainText.toUTF8) call).node = none

instance decidableDescribesNothing (tree : Concrete) : Decidable (edit.DescribesNothing tree) :=
  inferInstanceAs (Decidable (∀ call ∈ outer tree, call.kind = "call" →
    ∀ method ∈ call.child? "method", edit.IsName method →
      describedConstant? (read (.ofBytes edit.plainText.toUTF8) call).node = none))

/-! ### Texts -/

theorem toUTF8_plainText : edit.plainText.toUTF8 =
    (String.ofList edit.front).toUTF8 ++
      (edit.word.toUTF8 ++ (String.ofList edit.tail).toUTF8) := by
  rw [plainText, plain, around]
  simp

theorem toUTF8_focusedText : edit.focusedText.toUTF8 =
    (String.ofList edit.front).toUTF8 ++ ((String.ofList [edit.letter]).toUTF8 ++
      (edit.word.toUTF8 ++ (String.ofList edit.tail).toUTF8)) := by
  rw [focusedText, focused, around]
  simp

/-! ### Spans -/

theorem size_front : (String.ofList edit.front).toUTF8.size = edit.offset := rfl

theorem size_letter : (String.ofList [edit.letter]).toUTF8.size = 1 := by
  rcases edit.focuses with letter | letter <;> rw [letter] <;> rfl

theorem size_word_pos : 0 < edit.word.toUTF8.size := by
  have words : ∀ word ∈ focusWords, 0 < word.toUTF8.size := by decide +kernel
  exact words edit.word edit.chosen

theorem place_eq : edit.place = pushed (String.ofList edit.front).toUTF8.size
    (String.ofList [edit.letter]).toUTF8.size := by
  rw [size_front, size_letter, place]

/-- What keeps clear of the name keeps its text. -/
theorem textOf_clear {tree : Concrete} (clear : KeepsClear edit.offset tree) :
    textOf (.ofBytes edit.focusedText.toUTF8) (tree.relocate edit.place) =
      textOf (.ofBytes edit.plainText.toUTF8) tree := by
  rw [toUTF8_focusedText, toUTF8_plainText, place_eq]
  exact textOf_relocate _ _ _ clear

/-- The name reads with and without the letter. -/
theorem textOf_name {tree : Concrete} (isName : edit.IsName tree) :
    textOf (.ofBytes edit.plainText.toUTF8) tree = edit.word ∧
      textOf (.ofBytes edit.focusedText.toUTF8) (tree.relocate edit.place) =
        String.ofList (edit.letter :: edit.word.toList) := by
  have words : ∀ word ∈ focusWords, Text.decode word.toUTF8 = word := by decide +kernel
  have focused := of_decide_eq_true <| edit.holds_of_all
    (fun word letter => decide (Text.decode ((String.ofList [letter]).toUTF8 ++ word.toUTF8) =
      String.ofList (letter :: word.toList))) (by decide +kernel)
  obtain ⟨before, after⟩ := textOf_at_gap (String.ofList edit.front).toUTF8
    (String.ofList [edit.letter]).toUTF8 (String.ofList edit.tail).toUTF8 isName.1 isName.2
    edit.size_word_pos
  rw [toUTF8_focusedText, toUTF8_plainText, place_eq]
  exact ⟨before.trans (words edit.word edit.chosen), after.trans focused⟩

/-- Both names are one up to focus, and with the letter it is no plain `describe`. -/
theorem focusForm_names :
    focusForm (String.ofList (edit.letter :: edit.word.toList)) = focusForm edit.word ∧
      String.ofList (edit.letter :: edit.word.toList) ≠ "describe" := by
  exact of_decide_eq_true <| edit.holds_of_all
    (fun word letter => decide (focusForm (String.ofList (letter :: word.toList)) = focusForm word ∧
      String.ofList (letter :: word.toList) ≠ "describe")) (by decide +kernel)

variable {edit}

theorem focusForm_textOf {tree : Concrete} (lies : KeepsClear edit.offset tree ∨ edit.IsName tree) :
    focusForm (textOf (.ofBytes edit.focusedText.toUTF8) (tree.relocate edit.place)) =
      focusForm (textOf (.ofBytes edit.plainText.toUTF8) tree) := by
  rcases lies with clear | isName
  · rw [edit.textOf_clear clear]
  · obtain ⟨before, after⟩ := edit.textOf_name isName
    rw [before, after, edit.focusForm_names.1]

theorem keeps_of_namesCall {tree inner : Concrete} (namesCall : edit.NamesCall tree)
    (inside : Inside tree inner) :
    Keeps (.ofBytes edit.plainText.toUTF8) (.ofBytes edit.focusedText.toUTF8) edit.place inner where
  copied part member := edit.textOf_clear (namesCall.copied inner inside part member)
  name isIdentifier := focusForm_textOf (namesCall.name inner inside isIdentifier)
  call isCall method found := focusForm_textOf (namesCall.method inner inside isCall method found)

theorem keepsDescription_of_describesNothing {tree inner : Concrete}
    (namesCall : edit.NamesCall tree) (nothing : edit.DescribesNothing tree)
    (isOuter : inner ∈ outer tree) :
    KeepsDescription (.ofBytes edit.plainText.toUTF8) (.ofBytes edit.focusedText.toUTF8) edit.place
      inner := by
  intro isCall method found
  have inside : Inside tree inner := Concrete.inside_of_mem_reached isOuter
  rcases namesCall.method inner inside isCall method found with clear | isName
  · exact .inl (edit.textOf_clear clear)
  · rw [(edit.textOf_name isName).2]
    exact .inr ⟨edit.focusForm_names.2, nothing inner isOuter isCall method found isName⟩

/-! ### Questions about the tree -/

/-- A grammar takes the name for the name of calls, with and without the letter. -/
structure Applies (edit : Focusing) (grammar : Grammar) : Prop where
  relocated : grammar edit.focusedText.toUTF8 =
    (grammar edit.plainText.toUTF8).relocate edit.place
  namesCall : edit.NamesCall (grammar edit.plainText.toUTF8)

variable {grammar : Grammar} (applies : edit.Applies grammar) (path : Path)

include applies

/-- With the letter in front of its call, a spec has a tree of the same form. -/
theorem form_focused :
    form (Parsed.ofText grammar path edit.focusedText).root =
      form (Parsed.ofText grammar path edit.plainText).root := by
  unfold Parsed.ofText Parsed.ofBytes
  simp only [applies.relocated]
  exact form_programOf_relocate fun _ inside => keeps_of_namesCall applies.namesCall inside

theorem outerForm_focused (nothing : edit.DescribesNothing (grammar edit.plainText.toUTF8)) :
    outerForm (Parsed.ofText grammar path edit.focusedText).root =
      outerForm (Parsed.ofText grammar path edit.plainText).root := by
  unfold Parsed.ofText Parsed.ofBytes
  simp only [applies.relocated]
  exact outerForm_programOf_relocate (fun _ inside => keeps_of_namesCall applies.namesCall inside)
    fun _ isOuter => keepsDescription_of_describesNothing applies.namesCall nothing isOuter

/-- The scenarios under headers with titles are the same. -/
theorem countContexts_focused (titles : List String) :
    countContexts (Parsed.ofText grammar path edit.focusedText).root titles =
      countContexts (Parsed.ofText grammar path edit.plainText).root titles := by
  rw [← countContexts_form, form_focused applies, countContexts_form]

variable (nothing : edit.DescribesNothing (grammar edit.plainText.toUTF8))

include nothing

/-- The units that are described are the same. -/
theorem declaresUnit_focused (unit : String) :
    declaresUnit (Parsed.ofText grammar path edit.focusedText).root unit =
      declaresUnit (Parsed.ofText grammar path edit.plainText).root unit := by
  have same := outerForm_focused applies path nothing
  unfold Parsed.ofText Parsed.ofBytes at same ⊢
  rw [← declaresUnit_programOf, same, declaresUnit_programOf]

/-- The scenarios under the headers of a unit are the same. -/
theorem countUnitContexts_focused (unit : String) :
    countUnitContexts (Parsed.ofText grammar path edit.focusedText).root unit =
      countUnitContexts (Parsed.ofText grammar path edit.plainText).root unit := by
  have same := outerForm_focused applies path nothing
  unfold Parsed.ofText Parsed.ofBytes at same ⊢
  rw [← countUnitContexts_programOf, same, countUnitContexts_programOf]

end SpecLint.Spec.Focusing
