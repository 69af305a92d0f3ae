import SpecLint.Report.Count
import SpecLint.Report.Status

/-!
# Status lines that are always shown

The mark of a status line is markup, and so is its text. A text without brackets has no tags, and the
mark closes the style that it opens, so such a line can be shown in any style.

## Main result

`exists_plainStatus`: a status line without brackets in its text can be shown.
-/
namespace SpecLint.Report

open SpecLint.Text

/-- A piece that opens and closes nothing. -/
def Piece.isText : Piece → Bool
  | .text _ => true
  | .opening .. | .closing _ => false

variable {fuel : Nat} {read text name : List Char} {sign : Char}

/-! ### Pieces -/

theorem isText_of_mem_pending {piece : Piece} (member : piece ∈ pending read) :
    piece.isText = true := by
  unfold pending at member
  split at member
  · cases member
  · rw [List.mem_singleton.mp member]
    rfl

/-- A text without brackets has no tags. -/
theorem isText_of_mem_piecesFrom (plain : '[' ∉ text) {piece : Piece}
    (member : piece ∈ piecesFrom fuel read text) : piece.isText = true := by
  induction fuel generalizing read text with
  | zero => exact isText_of_mem_pending member
  | succ fuel ih =>
    cases text with
    | nil => exact isText_of_mem_pending member
    | cons c rest =>
      have behind : ∀ n, ((c :: rest).drop n).Sublist (c :: rest) := fun n => List.drop_sublist n _
      simp only [piecesFrom] at member
      split at member
      next inner bracket =>
        exact absurd ((behind _).mem (bracket ▸ List.mem_cons_self)) plain
      next after _ =>
        split at member
        · exact ih (fun inside => plain (List.mem_cons_of_mem _ inside)) member
        · exact ih (fun inside => plain ((behind _).mem inside)) member

theorem piecesFrom_char (plain : sign ≠ '[') (unescaped : sign ≠ '\\') :
    piecesFrom (fuel + 1) read (sign :: text) = piecesFrom fuel (sign :: read) text := by
  simp [piecesFrom, unescaped, plain]

theorem piecesFrom_tag {inside after : List Char} (tag : insideTag? text = some (inside, after)) :
    piecesFrom (fuel + 1) read ('[' :: text) =
      pending read ++ Piece.ofTag inside :: piecesFrom fuel [] after := by
  simp [piecesFrom, tag, pending]

/-! ### Marks -/

/-- A name that can stand in a tag, and in one that closes it. -/
structure IsTagName (name : List Char) : Prop where
  opens : ∀ after, insideTag? (name ++ ']' :: after) = some (name, after)
  closes : ∀ after, insideTag? ('/' :: name ++ ']' :: after) = some ('/' :: name, after)
  opening : Piece.ofTag name = .opening name none
  closing : Piece.ofTag ('/' :: name) = .closing name
  trimmed : trim name = name
  nonempty : name ≠ []

/-- A sign in a style, and a space. -/
def marked (name : List Char) (sign : Char) : List Char :=
  '[' :: name ++ ']' :: sign :: '[' :: '/' :: name ++ [']', ' ']

/-- The pieces of a line with a mark are those of the mark and those of its text. -/
theorem exists_pieces_marked (isName : IsTagName name) (plain : sign ≠ '[')
    (unescaped : sign ≠ '\\') (text : List Char) :
    ∃ fuel, pieces (marked name sign ++ text) =
      [.opening name none, .text [sign], .closing name] ++ piecesFrom fuel [' '] text := by
  have long : ∃ fuel, (marked name sign ++ text).length = fuel + 4 := by
    refine ⟨2 * name.length + text.length + 3, ?_⟩
    simp [marked]
    omega
  obtain ⟨fuel, long⟩ := long
  refine ⟨fuel, ?_⟩
  have line : marked name sign ++ text = '[' :: (name ++ ']' :: sign :: '[' ::
      ('/' :: name ++ ']' :: ' ' :: text)) := by
    simp [marked]
  -- two tags with the sign between them, and the space behind
  rw [pieces, long, line, piecesFrom_tag (isName.opens _), isName.opening,
    piecesFrom_char plain unescaped, piecesFrom_tag (isName.closes _), isName.closing,
    piecesFrom_char (by decide) (by decide)]
  rfl

/-! ### What is shown -/

theorem exists_shownFrom_text (styles : List OpenStyle) {pieces : List Piece}
    (plain : ∀ piece ∈ pieces, piece.isText = true) :
    ∃ shown, shownFrom styles pieces = .ok shown := by
  induction pieces with
  | nil => exact ⟨[], rfl⟩
  | cons piece pieces ih =>
    obtain ⟨here, later⟩ := List.forall_mem_cons.mp plain
    obtain ⟨shown, isShown⟩ := ih later
    cases piece with
    | text text =>
      rw [shownFrom, isShown]
      exact ⟨_, rfl⟩
    | opening => cases here
    | closing => cases here

/-- A mark closes the style that it opens. -/
theorem shownFrom_marked (isName : IsTagName name) {rest : List Piece} {shown : List Char}
    (isShown : shownFrom [] rest = .ok shown) :
    shownFrom [] ([.opening name none, .text [sign], .closing name] ++ rest) =
      .ok (withEmoji (unescaped [sign]) ++ shown) := by
  have closed : (⟨normalStyle name, none⟩ : OpenStyle).close = .ok () := by
    rw [OpenStyle.close, if_neg (by simp)]
  simp only [List.cons_append, List.nil_append, shownFrom]
  rw [isName.trimmed, if_neg isName.nonempty]
  -- the style that was opened last is the one to close
  simp only [List.find?_cons, List.eraseP_cons, beq_self_eq_true, cond_true]
  rw [closed]
  simp only [bind, Except.bind, isShown, pure, Except.pure]

/-- The mark of a style is a sign in a style, or has no brackets. -/
theorem statusMark_cases (style : String) :
    (∃ name sign, IsTagName name ∧ sign ≠ '[' ∧ sign ≠ '\\' ∧
        (statusMark style).toList = marked name sign) ∨
      '[' ∉ (statusMark style).toList := by
  have green : IsTagName ['g', 'r', 'e', 'e', 'n'] :=
    ⟨fun _ => rfl, fun _ => rfl, by decide, by decide, by decide, by decide⟩
  have red : IsTagName ['r', 'e', 'd'] :=
    ⟨fun _ => rfl, fun _ => rfl, by decide, by decide, by decide, by decide⟩
  have yellow : IsTagName ['y', 'e', 'l', 'l', 'o', 'w'] :=
    ⟨fun _ => rfl, fun _ => rfl, by decide, by decide, by decide, by decide⟩
  unfold statusMark
  split
  next => exact .inl ⟨_, '✓', green, by decide, by decide, by decide +kernel⟩
  next => exact .inl ⟨_, '✗', red, by decide, by decide, by decide +kernel⟩
  next => exact .inl ⟨_, '!', yellow, by decide, by decide, by decide +kernel⟩
  next => exact .inr (by decide +kernel)
  next => exact .inr (by decide +kernel)

/-- A status line without brackets in its text can be shown. -/
theorem exists_plainStatus {message : String} (plain : '[' ∉ message.toList) (style : String) :
    ∃ line, plainStatus message style = .ok line := by
  have line : (statusLine message style 0).toList = (statusMark style).toList ++ message.toList := by
    simp [statusLine]
  have shown : ∃ shown, shownFrom [] (pieces (statusLine message style 0).toList) = .ok shown := by
    rw [line]
    rcases statusMark_cases style with ⟨name, sign, isName, bracket, slash, isMark⟩ | noMark
    · obtain ⟨fuel, split⟩ := exists_pieces_marked isName bracket slash message.toList
      have texts : ∀ piece ∈ piecesFrom fuel [' '] message.toList, piece.isText = true :=
        fun _ => isText_of_mem_piecesFrom plain
      obtain ⟨rest, isRest⟩ := exists_shownFrom_text [] texts
      rw [isMark, split]
      exact ⟨_, shownFrom_marked isName isRest⟩
    · apply exists_shownFrom_text
      exact fun _ => isText_of_mem_piecesFrom (by simpa using ⟨noMark, plain⟩)
  obtain ⟨shown, isShown⟩ := shown
  rw [plainStatus, Report.plain, isShown]
  exact ⟨_, rfl⟩

/-! ### Counts -/

theorem bracket_not_mem_natText (n : Nat) : '[' ∉ Data.natText n := by
  intro member
  have digit := Nat.isDigit_of_mem_toDigits (by decide) (by decide) member
  exact absurd digit (by decide)

/-- A count has no brackets if its noun has none. -/
theorem bracket_not_mem_countedNat (singular : String) (plain : '[' ∉ singular.toList) (n : Nat) :
    '[' ∉ (countedNat n singular none).toList := by
  have number : (Data.Value.scalar (.int n)).rendered.toList = Data.natText n := by
    have whole : Data.intText n = Data.natText n := if_neg (by omega)
    rw [← whole]
    exact String.toList_ofList
  have noun : '[' ∉ (if Data.Scalar.same (.int n) (.int 1) then singular
      else singular ++ "s").toList := by
    split
    · exact plain
    · simpa using plain
  simpa [countedNat, counted, number] using ⟨bracket_not_mem_natText n, noun⟩

end SpecLint.Report
