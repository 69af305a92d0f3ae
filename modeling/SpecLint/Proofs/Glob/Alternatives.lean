import Mathlib.Data.List.Basic
import SpecLint.Glob.Braces

/-!
# The language of a brace pattern

A pattern with complete groups has a tree: pieces of text, one pattern after another, and groups of
alternatives. The tree gives the words that the pattern stands for, from left to right. A comma
inside a group divides it, so the pieces of text there hold none.

## Main result

`expandBraces_language`: a pattern with a tree expands to its words, and any pattern at all to some
patterns without a choice in them.

## Proof strategy

Expansion replaces a group by one alternative and starts anew with the whole text. So the words of a
part are compared in a context: plain text before it, and any text at all after it.
-/
namespace SpecLint.Glob

/-! ### Patterns as trees -/

/-- A character that stands for itself: no brace, and inside a group no comma. -/
def IsLiteral (grouped : Bool) (c : Char) : Prop :=
  c ≠ '\x7b' ∧ c ≠ '\x7d' ∧ (grouped = true → c ≠ ',')

mutual
/-- A pattern, at the top or directly inside a group. -/
inductive Braced : Bool → Type where
  | text {grouped : Bool} (characters : List Char)
      (literal : ∀ c ∈ characters, IsLiteral grouped c) : Braced grouped
  | append {grouped : Bool} (front back : Braced grouped) : Braced grouped
  | group {grouped : Bool} (alternatives : Alternatives) : Braced grouped

/-- The alternatives of a group, at least one. -/
inductive Alternatives : Type where
  | last (only : Braced true) : Alternatives
  | more (first : Braced true) (others : Alternatives) : Alternatives
end

mutual
/-- The pattern as it is written. -/
def Braced.written {grouped : Bool} : Braced grouped → List Char
  | .text characters _ => characters
  | .append front back => front.written ++ back.written
  | .group alternatives => '\x7b' :: alternatives.written

/-- The alternatives with the brace that closes their group. -/
def Alternatives.written : Alternatives → List Char
  | .last only => only.written ++ ['\x7d']
  | .more first others => first.written ++ ',' :: others.written
end

mutual
/-- The words that the pattern stands for. -/
def Braced.words {grouped : Bool} : Braced grouped → List (List Char)
  | .text characters _ => [characters]
  | .append front back => front.words.flatMap fun word => back.words.map (word ++ ·)
  | .group alternatives => alternatives.words

def Alternatives.words : Alternatives → List (List Char)
  | .last only => only.words
  | .more first others => first.words ++ others.words
end

/-- The alternatives one by one. -/
def Alternatives.listed : Alternatives → List (List Char)
  | .last only => [only.written]
  | .more first others => first.written :: others.listed

/-! ### Reading a group -/

/-- Put a text in front of the first alternative. -/
def pushText (text : List Char) (group : List (List Char) × List Char) :
    List (List Char) × List Char :=
  text.foldr pushChar group

theorem pushText_append (front back : List Char) (group : List (List Char) × List Char) :
    pushText (front ++ back) group = pushText front (pushText back group) :=
  List.foldr_append

theorem pushText_cons (text first : List Char) (others : List (List Char)) (tail : List Char) :
    pushText text (first :: others, tail) = ((text ++ first) :: others, tail) := by
  induction text with
  | nil => rfl
  | cons c text ih =>
    have step : pushText (c :: text) (first :: others, tail) =
        pushChar c (pushText text (first :: others, tail)) := rfl
    rw [step, ih]
    rfl

/-- An opening brace goes to the alternative that is being read and leads one level down. -/
theorem readGroup?_opening (depth : Nat) (rest : List Char) :
    readGroup? depth ('\x7b' :: rest) = (readGroup? (depth + 1) rest).map (pushChar '\x7b') := by
  rw [readGroup?.eq_def]
  rfl

theorem readGroup?_closing (depth : Nat) (rest : List Char) :
    readGroup? (depth + 1) ('\x7d' :: rest) = (readGroup? depth rest).map (pushChar '\x7d') := by
  rw [readGroup?.eq_def]
  rfl

/-- The closing brace of the group itself ends its last alternative. -/
theorem readGroup?_end (rest : List Char) : readGroup? 0 ('\x7d' :: rest) = some ([[]], rest) := by
  rw [readGroup?.eq_def]
  rfl

/-- A comma divides the group itself, but not a group inside it. -/
theorem readGroup?_comma (depth : Nat) (rest : List Char) :
    readGroup? depth (',' :: rest) =
      (readGroup? depth rest).map fun group =>
        if depth = 0 then ([] :: group.1, group.2) else pushChar ',' group := by
  rw [readGroup?.eq_def]
  cases depth <;> rfl

theorem readGroup?_literal {c : Char} (literal : IsLiteral true c) (depth : Nat)
    (rest : List Char) :
    readGroup? depth (c :: rest) = (readGroup? depth rest).map (pushChar c) := by
  obtain ⟨opening, closing, comma⟩ := literal
  rw [readGroup?.eq_def]
  simp only [opening, closing, comma, if_false, false_and]

theorem readGroup?_text {text : List Char} (literal : ∀ c ∈ text, IsLiteral true c) (depth : Nat)
    (rest : List Char) :
    readGroup? depth (text ++ rest) = (readGroup? depth rest).map (pushText text) := by
  induction text with
  | nil => exact Option.map_id'.symm
  | cons c text ih =>
    rw [List.cons_append, readGroup?_literal (literal c List.mem_cons_self),
      ih fun d member => literal d (List.mem_cons_of_mem c member), Option.map_map]
    rfl

mutual
/-- Whatever is written inside a group is handed on as it is. -/
theorem readGroup?_written (pattern : Braced true) (depth : Nat) (rest : List Char) :
    readGroup? depth (pattern.written ++ rest) =
      (readGroup? depth rest).map (pushText pattern.written) := by
  match pattern with
  | .text characters literal => exact readGroup?_text literal depth rest
  | .append front back =>
    rw [Braced.written, List.append_assoc, readGroup?_written front, readGroup?_written back,
      Option.map_map]
    congr 1
    funext group
    exact (pushText_append ..).symm
  | .group alternatives =>
    rw [Braced.written, List.cons_append, readGroup?_opening,
      readGroup?_inner alternatives depth rest, Option.map_map]
    rfl

/-- The alternatives of a group inside another group are not divided. -/
theorem readGroup?_inner (alternatives : Alternatives) (depth : Nat) (rest : List Char) :
    readGroup? (depth + 1) (alternatives.written ++ rest) =
      (readGroup? depth rest).map (pushText alternatives.written) := by
  match alternatives with
  | .last only =>
    rw [Alternatives.written, List.append_assoc, readGroup?_written only, List.singleton_append,
      readGroup?_closing, Option.map_map]
    congr 1
    funext group
    exact (pushText_append only.written ['\x7d'] group).symm
  | .more first others =>
    -- below the first level a comma is a character like any other
    rw [Alternatives.written, List.append_assoc, readGroup?_written first, List.cons_append,
      readGroup?_comma, readGroup?_inner others depth rest, Option.map_map, Option.map_map]
    congr 1
    funext group
    exact (pushText_append first.written (',' :: others.written) group).symm
end

/-- The alternatives of a group are those that were written, and what follows is left over. -/
theorem readGroup?_alternatives (alternatives : Alternatives) (rest : List Char) :
    readGroup? 0 (alternatives.written ++ rest) = some (alternatives.listed, rest) := by
  match alternatives with
  | .last only =>
    rw [Alternatives.written, List.append_assoc, readGroup?_written only, List.singleton_append,
      readGroup?_end, Option.map_some, pushText_cons, List.append_nil]
    rfl
  | .more first others =>
    rw [Alternatives.written, List.append_assoc, readGroup?_written first, List.cons_append,
      readGroup?_comma, readGroup?_alternatives others rest, Option.map_some, Option.map_some,
      if_pos rfl, pushText_cons, List.append_nil]
    rfl

/-! ### Expanding in a context -/

/-- A group has at least one alternative. -/
theorem firstGroup?_ne_nil {pattern head tail : List Char} {alternatives : List (List Char)}
    (found : firstGroup? pattern = some (head, alternatives, tail)) : alternatives ≠ [] := by
  induction pattern generalizing head with
  | nil => cases found
  | cons c rest ih =>
    rw [firstGroup?] at found
    split at found
    · obtain ⟨group, read, same⟩ := Option.map_eq_some_iff.mp found
      cases same
      exact readGroup?_ne_nil read
    · obtain ⟨group, later, same⟩ := Option.map_eq_some_iff.mp found
      cases same
      exact ih later

theorem firstGroup?_plain {text : List Char} (plain : '\x7b' ∉ text) : firstGroup? text = none := by
  induction text with
  | nil => rfl
  | cons c text ih =>
    rw [List.mem_cons, not_or] at plain
    rw [firstGroup?, if_neg (Ne.symm plain.1), ih plain.2]
    rfl

/-- The first group of a text is the one that opens behind its plain beginning. -/
theorem firstGroup?_group {head : List Char} (plain : '\x7b' ∉ head) (alternatives : Alternatives)
    (rest : List Char) :
    firstGroup? (head ++ '\x7b' :: (alternatives.written ++ rest)) =
      some (head, alternatives.listed, rest) := by
  induction head with
  | nil => rw [List.nil_append, firstGroup?, if_pos rfl, readGroup?_alternatives]; rfl
  | cons c head ih =>
    rw [List.mem_cons, not_or] at plain
    rw [List.cons_append, firstGroup?, if_neg (Ne.symm plain.1), ih plain.2]
    rfl

mutual
/-- No word has a group left in it. -/
theorem Braced.plain_of_mem_words {grouped : Bool} (pattern : Braced grouped) {word : List Char}
    (member : word ∈ pattern.words) : '\x7b' ∉ word := by
  match pattern with
  | .text characters literal =>
    rw [Braced.words, List.mem_singleton] at member
    rw [member]
    exact fun opening => (literal _ opening).1 rfl
  | .append front back =>
    rw [Braced.words, List.mem_flatMap] at member
    obtain ⟨left, inFront, paired⟩ := member
    obtain ⟨right, inBack, rfl⟩ := List.mem_map.mp paired
    rw [List.mem_append, not_or]
    exact ⟨front.plain_of_mem_words inFront, back.plain_of_mem_words inBack⟩
  | .group alternatives => exact alternatives.plain_of_mem_words member

theorem Alternatives.plain_of_mem_words (alternatives : Alternatives) {word : List Char}
    (member : word ∈ alternatives.words) : '\x7b' ∉ word := by
  match alternatives with
  | .last only => exact only.plain_of_mem_words member
  | .more first others =>
    rcases List.mem_append.mp member with here | later
    · exact first.plain_of_mem_words here
    · exact others.plain_of_mem_words later
end

mutual
/-- Behind plain text and before any other text, a pattern stands for its words. -/
theorem expandBraces_written {grouped : Bool} (pattern : Braced grouped) {head : List Char}
    (plain : '\x7b' ∉ head) (rest : List Char) :
    expandBraces (head ++ (pattern.written ++ rest)) =
      pattern.words.flatMap fun word => expandBraces (head ++ (word ++ rest)) := by
  match pattern with
  | .text characters literal => rw [Braced.words, List.flatMap_singleton]; rfl
  | .append front back =>
    rw [Braced.written, List.append_assoc, expandBraces_written front plain, Braced.words,
      List.flatMap_assoc]
    -- the words of the front are plain and go to the context of the back
    refine List.flatMap_congr fun word member => ?_
    have before : '\x7b' ∉ head ++ word := by
      rw [List.mem_append, not_or]
      exact ⟨plain, front.plain_of_mem_words member⟩
    rw [← List.append_assoc, expandBraces_written back before, List.flatMap_map]
    simp only [List.append_assoc]
  | .group alternatives =>
    rw [Braced.written, List.cons_append, expandBraces_group (firstGroup?_group plain ..)]
    simp only [List.append_assoc]
    exact expandBraces_listed alternatives plain rest

theorem expandBraces_listed (alternatives : Alternatives) {head : List Char}
    (plain : '\x7b' ∉ head) (rest : List Char) :
    (alternatives.listed.flatMap fun alternative => expandBraces (head ++ (alternative ++ rest))) =
      alternatives.words.flatMap fun word => expandBraces (head ++ (word ++ rest)) := by
  match alternatives with
  | .last only =>
    rw [Alternatives.listed, List.flatMap_singleton, expandBraces_written only plain]
    rfl
  | .more first others =>
    rw [Alternatives.listed, List.flatMap_cons, expandBraces_written first plain,
      expandBraces_listed others plain, Alternatives.words, List.flatMap_append]
end

/-! ### All patterns -/

/-- There is always something that a pattern expands to, and no choice is left in it. -/
theorem expandBraces_settled (pattern : List Char) :
    expandBraces pattern ≠ [] ∧ ∀ word ∈ expandBraces pattern, firstGroup? word = none := by
  induction pattern using expandBraces.induct with
  | case1 pattern plain =>
    rw [expandBraces_plain plain]
    exact ⟨List.cons_ne_nil _ _, fun word member => List.mem_singleton.mp member ▸ plain⟩
  | case2 pattern head alternatives tail found ih =>
    rw [expandBraces_group found]
    constructor
    · -- a group has at least one alternative, and that expands to something
      obtain ⟨first, others, rfl⟩ := List.exists_cons_of_ne_nil (firstGroup?_ne_nil found)
      rw [List.flatMap_cons]
      exact List.append_ne_nil_of_left_ne_nil (ih first List.mem_cons_self).1 _
    · intro word member
      obtain ⟨alternative, isAlternative, expanded⟩ := List.mem_flatMap.mp member
      exact (ih alternative isAlternative).2 word expanded

/-- A pattern with a tree expands to the words of the tree, in their order. Every other text expands
as well, to at least one pattern, and what it expands to stands for itself. -/
theorem expandBraces_language :
    (∀ {grouped : Bool} (pattern : Braced grouped),
      expandBraces pattern.written = pattern.words) ∧
    ∀ pattern : List Char, expandBraces pattern ≠ [] ∧
      ∀ word ∈ expandBraces pattern, expandBraces word = [word] := by
  constructor
  · intro grouped pattern
    have before : '\x7b' ∉ ([] : List Char) := List.not_mem_nil
    have whole := expandBraces_written pattern before []
    simp only [List.nil_append, List.append_nil] at whole
    -- nothing is left to be expanded in a word
    have settled : ∀ word ∈ pattern.words, expandBraces word = [word] := fun word member =>
      expandBraces_plain (firstGroup?_plain (pattern.plain_of_mem_words member))
    rw [whole, List.flatMap_congr settled, List.flatMap_singleton']
  · intro pattern
    obtain ⟨present, settled⟩ := expandBraces_settled pattern
    exact ⟨present, fun word member => expandBraces_plain (settled word member)⟩

/-! Alternatives inside an alternative, and text behind them. -/

/-- A group whose second alternative begins with a group of its own. -/
def nestedPattern : Braced false :=
  .append
    (.group (.more (.text ['a'] (by simp [IsLiteral]))
      (.last (.append
        (.group (.more (.text [] (by simp)) (.last (.text ['b'] (by simp [IsLiteral])))))
        (.text ['c'] (by simp [IsLiteral]))))))
    (.text ['/', '*'] (by simp [IsLiteral]))

theorem expandBraces_nestedPattern :
    expandBraces nestedPattern.written = [['a', '/', '*'], ['c', '/', '*'], ['b', 'c', '/', '*']] ∧
      expandBraces ['b', 'c', '/', '*'] = [['b', 'c', '/', '*']] := by
  obtain ⟨expands, settles⟩ := expandBraces_language
  have words : expandBraces nestedPattern.written =
      [['a', '/', '*'], ['c', '/', '*'], ['b', 'c', '/', '*']] :=
    (expands nestedPattern).trans rfl
  have member : ['b', 'c', '/', '*'] ∈ expandBraces nestedPattern.written := by simp [words]
  exact ⟨words, (settles nestedPattern.written).2 _ member⟩

end SpecLint.Glob
