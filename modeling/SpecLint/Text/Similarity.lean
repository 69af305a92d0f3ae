/-!
# Similar words

Two words are compared by the letters they share in order: the longest common run, and the same
again on both sides of it. A word is close to another if these letters make up six tenths of both.
-/
namespace SpecLint.Text

/-- The length of the common start of two words. -/
def commonStart : List Char → List Char → Nat
  | a :: left, b :: right => if a = b then commonStart left right + 1 else 0
  | _, _ => 0

/-- A common run: where it starts in both words, and its length. -/
structure CommonRun where
  left : Nat
  right : Nat
  length : Nat

/-- The longest common run; of several, the first in the left word and then in the right one. -/
def longestRun (left right : List Char) : CommonRun :=
  let starts := (List.range left.length).flatMap fun i => (List.range right.length).map fun j =>
    CommonRun.mk i j (commonStart (left.drop i) (right.drop j))
  starts.foldl (fun best run => if best.length < run.length then run else best) ⟨0, 0, 0⟩

/-- How many letters two words share; the budget bounds the number of runs. -/
def sharedLetters : Nat → List Char → List Char → Nat
  | 0, _, _ => 0
  | budget + 1, left, right =>
    let run := longestRun left right
    if run.length = 0 then 0
    else
      let after (word : List Char) (start : Nat) : List Char := word.drop (start + run.length)
      run.length + sharedLetters budget (left.take run.left) (right.take run.right) +
        sharedLetters budget (after left run.left) (after right run.right)

/-- Whether two words are close. -/
def isClose (left right : String) : Bool :=
  let total := left.length + right.length
  let shared := sharedLetters (left.length + 1) left.toList right.toList
  decide (total = 0) || decide (6 * total ≤ 20 * shared)

/-- The words close to `word`, in dictionary order. -/
def closeWords (word : String) (words : List String) : List String :=
  (words.filter fun other => isClose other word).mergeSort fun left right => decide (left ≤ right)

example : isClose "--check" "--chek" = true := by decide +kernel

example : isClose "--check" "--root" = false := by decide +kernel

end SpecLint.Text
