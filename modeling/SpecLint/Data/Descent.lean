import SpecLint.Data.Value

/-!
# Mappings that lead on without end

A mapping that contains itself leads on without end: under one of its keys there is always a further
mapping. Two mappings are merged by merging what both hold under their common keys, so this has no
end if they lead on together without end. Values are written out only so far, and so mappings that
contain themselves are followed by their numbers, from link to link.
-/
namespace SpecLint.Data

/-- A mapping that contains itself leads to another one under a key. -/
structure Link where
  source : Nat
  key : Scalar
  target : Nat
  deriving DecidableEq, Repr

/-- The number of a mapping that contains itself. -/
def Value.number? : Value → Option Nat
  | .looped number value => if value.isMap then some number else none
  | _ => none

/-- The links from a mapping that is known by a number. -/
def linksFrom (number : Nat) (entries : Entries) : List Link :=
  entries.filterMap fun entry => entry.2.number?.map fun target => ⟨number, entry.1, target⟩

mutual
/-- The links of the mappings in a value. -/
def Value.links : Value → List Link
  | .scalar _ | .set _ => []
  | .list items | .tuple items => linksOfItems items
  | .map entries => linksOfEntries entries
  | .looped number value => linksFrom number value.entries ++ value.links

def linksOfItems : List Value → List Link
  | [] => []
  | item :: rest => item.links ++ linksOfItems rest

def linksOfEntries : List (Scalar × Value) → List Link
  | [] => []
  | (_, value) :: rest => value.links ++ linksOfEntries rest
end

mutual
/-- How far mappings lie in mappings, as a value is written out. -/
def Value.depth : Value → Nat
  | .map entries => depthOfEntries entries + 1
  | .looped _ value => value.depth
  | _ => 0

def depthOfEntries : List (Scalar × Value) → Nat
  | [] => 0
  | (_, value) :: rest => max value.depth (depthOfEntries rest)
end

/-- Where a way down through mappings has come to. -/
inductive Stop where
  /-- A mapping that contains itself. -/
  | known (number : Nat)
  | plain (value : Value)

def Value.stop (value : Value) : Stop :=
  match value.number? with
  | some number => .known number
  | none => .plain value

namespace Stop

/-- The mappings that come next, by key. -/
def next (links : List Link) : Stop → List (Scalar × Stop)
  | known number =>
    (links.filter (·.source = number)).map fun link => (link.key, known link.target)
  | plain value => (value.entries.filter (·.2.isMap)).map fun entry => (entry.1, entry.2.stop)

/-- How many steps may be taken before a mapping that contains itself is reached. -/
def depth : Stop → Nat
  | known _ => 0
  | plain value => value.depth

end Stop

/-- Whether two ways can be gone on together for so many steps, under the same keys. -/
def leadOn (links : List Link) : Nat → Stop → Stop → Bool
  | 0, _, _ => true
  | steps + 1, left, right => (left.next links).any fun one => (right.next links).any fun other =>
      one.1.same other.1 && leadOn links steps one.2 other.2

/-- Whether two values lead on together without end: there are only so many pairs of mappings that
contain themselves, so a way that is longer comes back to one of them. -/
def leadOnForever (links : List Link) (left right : Value) : Bool :=
  let enough := links.length * links.length + 1 + (left.stop.depth + right.stop.depth)
  leadOn links enough left.stop right.stop

end SpecLint.Data
