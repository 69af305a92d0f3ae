import SpecLint.Proofs.Code.Parts

/-!
# Trees of a longer source

When bytes are put into a source, a node of its concrete tree is found where the bytes before it
push it to. The parts of a node are chosen by their kinds and fields, so the same ones are chosen
after the move; and a node that does not reach over the place of the new bytes has the same text.

## Main results

* `shown_relocate`, `child?_relocate` and their companions: moving commutes with choosing parts.
* `textOf_relocate`: the text of a node that lies to one side of the new bytes.
-/
namespace SpecLint.Code

namespace Concrete

mutual
/-- The tree with all places in the source moved. -/
def relocate (place : Nat → Nat) : Concrete → Concrete
  | .node kind named missing start stop field children =>
    .node kind named missing (place start) (place stop) field (relocateAll place children)

def relocateAll (place : Nat → Nat) : List Concrete → List Concrete
  | [] => []
  | tree :: rest => relocate place tree :: relocateAll place rest
end

theorem relocateAll_eq_map (place : Nat → Nat) (trees : List Concrete) :
    relocateAll place trees = trees.map (relocate place) := by
  induction trees with
  | nil => simp [relocateAll]
  | cons tree rest ih => simp [relocateAll, ih]

variable (place : Nat → Nat) (tree : Concrete)

@[simp] theorem kind_relocate : (tree.relocate place).kind = tree.kind := by
  cases tree
  simp [relocate, kind]

@[simp] theorem named_relocate : (tree.relocate place).named = tree.named := by
  cases tree
  simp [relocate, named]

@[simp] theorem field_relocate : (tree.relocate place).field = tree.field := by
  cases tree
  simp [relocate, field]

@[simp] theorem start_relocate : (tree.relocate place).start = place tree.start := by
  cases tree
  simp [relocate, start]

@[simp] theorem stop_relocate : (tree.relocate place).stop = place tree.stop := by
  cases tree
  simp [relocate, stop]

@[simp] theorem children_relocate :
    (tree.relocate place).children = tree.children.map (relocate place) := by
  cases tree
  simp [relocate, children, relocateAll_eq_map]

theorem filter_relocate (trees : List Concrete) (test : Concrete → Bool)
    (kept : ∀ tree, test (relocate place tree) = test tree) :
    (trees.map (relocate place)).filter test = (trees.filter test).map (relocate place) := by
  rw [List.filter_map]
  congr 2
  exact funext kept

theorem child?_relocate (field : String) :
    (tree.relocate place).child? field = (tree.child? field).map (relocate place) := by
  rw [child?, children_relocate, List.find?_map]
  congr 2
  funext child
  simp

theorem namedChildren_relocate :
    (tree.relocate place).namedChildren = tree.namedChildren.map (relocate place) := by
  rw [namedChildren, children_relocate]
  exact filter_relocate place _ _ (named_relocate place)

theorem isShown_relocate : (tree.relocate place).isShown = tree.isShown := by
  simp [isShown]

theorem shown_relocate : (tree.relocate place).shown = tree.shown.map (relocate place) := by
  rw [shown, children_relocate]
  exact filter_relocate place _ _ (isShown_relocate place)

theorem shownBeside_relocate (fields : List String) :
    (tree.relocate place).shownBeside fields =
      (tree.shownBeside fields).map (relocate place) := by
  rw [shownBeside, shown_relocate]
  exact filter_relocate place _ _ fun child => by rw [field_relocate]

end Concrete

/-! ### Texts in a longer source -/

/-- Where an offset comes to lie when `size` bytes are put in at `gap`. -/
def pushed (gap size offset : Nat) : Nat := if offset ≤ gap then offset else offset + size

/-- A node that lies to one side of a gap between two bytes. -/
def KeepsClear (gap : Nat) (tree : Concrete) : Prop := tree.stop ≤ gap ∨ gap < tree.start

instance decidableKeepsClear (gap : Nat) (tree : Concrete) : Decidable (KeepsClear gap tree) :=
  inferInstanceAs (Decidable (_ ∨ _))

theorem extract_eq_empty (bytes : ByteArray) {start stop : Nat}
    (nothing : bytes.size ≤ start ∨ stop ≤ start) : bytes.extract start stop = .empty := by
  apply ByteArray.ext
  simp
  omega

theorem extract_before (front rest : ByteArray) {start stop : Nat} (inside : stop ≤ front.size) :
    (front ++ rest).extract start stop = front.extract start stop := by
  rw [ByteArray.extract_append, extract_eq_empty rest (by omega), ByteArray.append_empty]

theorem extract_behind (front rest : ByteArray) {start : Nat} (behind : front.size ≤ start)
    (stop : Nat) :
    (front ++ rest).extract start stop =
      rest.extract (start - front.size) (stop - front.size) := by
  rw [ByteArray.extract_append, extract_eq_empty front (.inl behind), ByteArray.empty_append]

/-- What lies to one side of new bytes is cut out where they push it to. -/
theorem extract_pushed (front more rest : ByteArray) {start stop : Nat}
    (clear : stop ≤ front.size ∨ front.size < start) :
    (front ++ (more ++ rest)).extract (pushed front.size more.size start)
        (pushed front.size more.size stop) =
      (front ++ rest).extract start stop := by
  -- what ends before the new bytes stays, what begins behind them moves as a whole
  by_cases before : stop ≤ front.size
  · have stays : pushed front.size more.size stop = stop := if_pos before
    rw [stays, extract_before front _ before, extract_before front _ before]
    by_cases begins : start ≤ front.size
    · rw [pushed, if_pos begins]
    · rw [pushed, if_neg begins, extract_eq_empty front (by omega),
        extract_eq_empty front (by omega)]
  · have behind : front.size < start := clear.resolve_left before
    rw [pushed, pushed, if_neg before, if_neg (by omega), extract_behind front _ (by omega),
      extract_behind more _ (by omega), extract_behind front _ (by omega)]
    congr 1 <;> omega

variable (front more rest : ByteArray)

/-- A node that lies to one side of new bytes has the same text where they push it to. -/
theorem textOf_relocate {tree : Concrete} (clear : KeepsClear front.size tree) :
    textOf (Source.ofBytes (front ++ (more ++ rest)))
        (tree.relocate (pushed front.size more.size)) =
      textOf (Source.ofBytes (front ++ rest)) tree := by
  rw [textOf, Concrete.start_relocate, Concrete.stop_relocate]
  exact congrArg Text.decode (extract_pushed front more rest clear)

/-- A node that begins at the gap and ends with the next bytes takes in the new ones. -/
theorem textOf_at_gap {tree : Concrete} {word : ByteArray} (begins : tree.start = front.size)
    (ends : tree.stop = front.size + word.size) (some : 0 < word.size) :
    textOf (Source.ofBytes (front ++ (word ++ rest))) tree = Text.decode word ∧
      textOf (Source.ofBytes (front ++ (more ++ (word ++ rest))))
          (tree.relocate (pushed front.size more.size)) = Text.decode (more ++ word) := by
  have whole (word : ByteArray) :
      (front ++ (word ++ rest)).extract front.size (front.size + word.size) = word := by
    rw [extract_behind front _ (Nat.le_refl _), Nat.sub_self, Nat.add_sub_cancel_left,
      extract_before word _ (Nat.le_refl _), ByteArray.extract_zero_size]
  constructor
  · rw [textOf, begins, ends]
    exact congrArg Text.decode (whole word)
  · have stays : pushed front.size more.size front.size = front.size := if_pos (Nat.le_refl _)
    have moves : pushed front.size more.size (front.size + word.size) =
        front.size + (more ++ word).size := by
      rw [pushed, if_neg (by omega), ByteArray.size_append]
      omega
    rw [textOf, Concrete.start_relocate, Concrete.stop_relocate, begins, ends, stays, moves,
      ← ByteArray.append_assoc (a := more)]
    exact congrArg Text.decode (whole (more ++ word))

end SpecLint.Code
