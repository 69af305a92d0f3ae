import SpecLint.Yaml.Loop
import SpecLint.Yaml.Meaning

/-!
# Nodes layer by layer

Making sense of a node settles the scalars that stand directly in it, while the collections in it
wait. Before, the entries that a mapping merges under `<<` are put before its own. A document with
several faults has the one in the outermost layer; in one layer, the first.
-/
namespace SpecLint.Yaml

open SpecLint.Data

namespace Tree

mutual
/-- The text of a scalar; a mapping stands for what it has under the lone equal sign. -/
def scalarText? : Tree → Option String
  | scalar _ text => some text
  | map _ entries => textUnderEquals? entries
  | looped _ tree => tree.scalarText?
  | list .. | again _ => none

def textUnderEquals? : List (Tree × Tree) → Option String
  | [] => none
  | (key, value) :: rest => if key.tag = .equals then value.scalarText? else textUnderEquals? rest
end

/-- The scalar that a node means; none for a collection, which waits. -/
def scalar? (tree : Tree) : Except Fault (Option Scalar) :=
  if tree.tag.isCollection then .ok none
  else match tree.scalarText? with
    | none => malformed .wrongShape
    | some text =>
      if tree.tag = .moment ∧ tree.isMap then .error (.unfit .momentOfMapping)
      else (tree.tag.meaning text).map some

mutual
/-- The entries that are merged into a mapping, and its own. A key that is a lone equal sign is a
text. -/
def flatten : List (Tree × Tree) → Except Fault (List (Tree × Tree) × List (Tree × Tree))
  | [] => .ok ([], [])
  | (key, value) :: rest => do
    if key.tag = .merge then
      let found ← value.merged
      let (merged, own) ← flatten rest
      return (found ++ merged, own)
    else
      let key := match key with
        | scalar .equals text => scalar .text text
        | key => key
      let (merged, own) ← flatten rest
      return (merged, (key, value) :: own)

/-- The entries that a node merges into a mapping: those of a mapping, or of mappings in a list, of
which the first wins. -/
def merged : Tree → Except Fault (List (Tree × Tree))
  | list _ items => do return (← mergedEach items).reverse.flatten
  | map _ entries => do
    let (merged, own) ← flatten entries
    return merged ++ own
  | looped _ tree => tree.merged
  | scalar .. | again _ => malformed .badMerge

/-- The entries of a mapping. -/
def mergedItem : Tree → Except Fault (List (Tree × Tree))
  | map _ entries => do
    let (merged, own) ← flatten entries
    return merged ++ own
  | looped _ tree => tree.mergedItem
  | list .. | scalar .. | again _ => malformed .badMerge

def mergedEach : List Tree → Except Fault (List (List (Tree × Tree)))
  | [] => .ok []
  | item :: rest => do
    let found ← item.mergedItem
    let others ← mergedEach rest
    return found :: others
end

end Tree

/-- A collection whose scalars are settled. -/
inductive Layer where
  | list (items : List Tree)
  /-- Pairs, each with the number it is known by. -/
  | pairs (items : List (Option Nat × Tree × Tree))
  | map (entries : List (Scalar × Tree))
  | set (entries : List (Scalar × Tree))

namespace Layer

def keyOf (tree : Tree) : Except Fault Scalar := do
  match ← tree.scalar? with
  | some key => return key
  | none => malformed .collectionAsKey

def entriesOf (entries : List (Tree × Tree)) : Except Fault (List (Scalar × Tree)) := do
  let (merged, own) ← Tree.flatten entries
  (merged ++ own).mapM fun (key, value) => do
    let key ← keyOf key
    discard value.scalar?
    return (key, value)

/-- A pair is a mapping of one entry. -/
def pairOf (tree : Tree) : Except Fault (Option Nat × Tree × Tree) := do
  let number := match tree with
    | .looped number _ => some number
    | _ => none
  match tree.bare with
  | .map _ [(key, value)] =>
    discard key.scalar?
    discard value.scalar?
    return (number, key, value)
  | _ => malformed .wrongShape

/-- Make sense of a collection. -/
def ofTree (tree : Tree) : Except Fault Layer :=
  match tree.bare with
  | .list .list items => do
    items.forM fun item => discard item.scalar?
    return .list items
  | .list .orderedMap items | .list .pairs items => do return .pairs (← items.mapM pairOf)
  | .map .map entries => do return .map (← entriesOf entries)
  | .map .set entries => do return .set (← entriesOf entries)
  | _ => malformed .wrongShape

/-- The parts of a collection. -/
def parts : Layer → List Tree
  | list items => items
  | pairs items => items.flatMap fun (_, key, value) => [key, value]
  | map entries | set entries => entries.map (·.2)

end Layer

/-- Make sense of collections, and then of those in them, layer by layer. -/
def survey : Nat → List Tree → Except Fault PUnit
  | 0, _ => .ok ()
  | fuel + 1, trees => do
    let layers ← trees.mapM Layer.ofTree
    survey fuel ((layers.flatMap Layer.parts).filter (·.tag.isCollection))

end SpecLint.Yaml
