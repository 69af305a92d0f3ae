import SpecLint.Yaml.Layer

/-!
# YAML as settings data

A document is read as a value. Later entries of a mapping win over earlier ones with the same key,
and entries of its own win over those it merges. Only tags of plain data are known.
-/
namespace SpecLint.Yaml

open SpecLint.Data

mutual
def Tree.depth : Tree → Nat
  | .scalar .. | .again _ => 0
  | .list _ items => itemsDepth items + 1
  | .map _ entries => entriesDepth entries + 1
  | .looped _ tree => tree.depth

def itemsDepth : List Tree → Nat
  | [] => 0
  | item :: rest => max item.depth (itemsDepth rest)

def entriesDepth : List (Tree × Tree) → Nat
  | [] => 0
  | (key, value) :: rest => max (max key.depth value.depth) (entriesDepth rest)
end

/-- Write entries one after the other. -/
def collect (entries : List (Scalar × Value)) : Entries :=
  entries.foldl (fun collected (key, value) => Entries.put key value collected) []

/-- A value with the number it is known by. -/
def numbered (value : Value) : Option Nat → Value
  | some number => .looped number value
  | none => value

/-- The value of a node; `fuel` exceeds its depth. -/
def build : Nat → Tree → Except Fault Value
  | 0, _ => malformed .wrongShape
  | fuel + 1, tree => do
    match ← tree.scalar? with
    | some value => return .scalar value
    | none =>
      let entry := fun (entry : Scalar × Tree) => do return (entry.1, ← build fuel entry.2)
      let value ← match ← Layer.ofTree tree with
        | .list items => .list <$> items.mapM (build fuel)
        | .pairs items => .list <$> items.mapM fun (number, key, value) => do
            return numbered (.tuple [← build fuel key, ← build fuel value]) number
        | .map entries => do pure (.map (collect (← entries.mapM entry)))
        | .set entries => do pure (.set ((collect (← entries.mapM entry)).map (·.1)))
      let number := match tree with
        | .looped number _ => some number
        | _ => none
      return numbered value number

/-- The value of a tree, or the first fault in it. -/
def Tree.toValue (tree : Tree) : Except Fault Value := do
  let fuel := tree.depth + 1
  survey fuel ([tree].filter (·.tag.isCollection))
  build fuel tree

/-- Read a text as one document; none if there is no document in it. -/
def read (text : List Char) : Except Fault (Option Value) := do
  match ← Document.ofText text with
  | none => return none
  | some document => return some (← document.unrolled.toValue)

end SpecLint.Yaml
