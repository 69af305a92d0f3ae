import SpecLint.Yaml.Tree

/-!
# Nodes that contain themselves

A node that contains itself has no end. It is unrolled: wherever it occurs in itself, it is written
out again, up to a depth below which no setting lies. From there on it is written out once more on
each way down, so that it is seen to recur, and then left empty. A node whose entries are merged
into another one stands there for these entries only, and does not count as written out.
-/
namespace SpecLint.Yaml

/-- The depth down to which settings lie. -/
def settingDepth : Nat := 4

/-- What a place in a document lies in. -/
structure Around where
  depth : Nat
  /-- The nodes below the depth of settings that the place lies in, by number. -/
  within : List Nat
  /-- At a place whose entries are merged into a mapping: the nodes over which it came there. -/
  merging : Option (List Nat)

namespace Around

def top : Around := ⟨0, [], none⟩

/-- A place in a mapping. -/
def inside (around : Around) : Around :=
  { around with depth := around.depth + 1, merging := none }

/-- A place in a list. What is merged may stand in a list. -/
def listed (around : Around) : Around := { around with depth := around.depth + 1 }

/-- A place in a mapping whose entries are merged into it. -/
def merged (around : Around) : Around :=
  { around with depth := around.depth + 1, merging := some (around.merging.getD []) }

/-- Start on a node that is known by a number; none if that has been done on the way. -/
def enter? (around : Around) (number : Nat) : Option Around :=
  match around.merging with
  | some nodes =>
    if number ∈ nodes then none else some { around with merging := some (number :: nodes) }
  | none =>
    if number ∈ around.within then none
    else if around.depth < settingDepth then some around
    else some { around with within := number :: around.within }

end Around

mutual
/-- Write out the nodes that are known by number, given how one is written at a place. -/
def Tree.unfold (write : Around → Nat → Tree) (around : Around) : Tree → Tree
  | .scalar tag text => .scalar tag text
  | .list tag items => .list tag (unfoldItems write around.listed items)
  | .map tag entries => .map tag (unfoldEntries write around entries)
  | .looped number _ => write around number
  | .again number => write around number

def unfoldItems (write : Around → Nat → Tree) (around : Around) : List Tree → List Tree
  | [] => []
  | item :: rest => item.unfold write around :: unfoldItems write around rest

def unfoldEntries (write : Around → Nat → Tree) (around : Around) :
    List (Tree × Tree) → List (Tree × Tree)
  | [] => []
  | (key, value) :: rest =>
    let place := if key.tag = .merge then around.merged else around.inside
    (key.unfold write around.inside, value.unfold write place) :: unfoldEntries write around rest
end

namespace Document

/-- A node known by a number. -/
def node (document : Document) (number : Nat) : Tree :=
  (document.loops.lookup number).getD Tree.empty

/-- The node left empty; a mapping keeps its keys. -/
def cut (document : Document) (number : Nat) : Tree :=
  .looped number (match document.node number with
    | .map _ entries =>
      .map .map ((entries.filter (·.1.tag ≠ .merge)).map fun entry => (entry.1, Tree.empty))
    | _ => .list .list [])

/-- A node at a place. On a way down, below the depth of settings, all nodes are different, and so
are those in each row of nodes that are merged; `fuel` need only exceed their number. -/
def write (document : Document) : Nat → Around → Nat → Tree
  | 0, _, number => document.cut number
  | fuel + 1, around, number =>
    match around.enter? number with
    | some around => .looped number ((document.node number).unfold (document.write fuel) around)
    | none => document.cut number

/-- The document as a tree without references back. -/
def unrolled (document : Document) : Tree :=
  let nodes := document.loops.length
  document.root.unfold (document.write ((settingDepth + nodes + 1) * (nodes + 1))) .top

end Document

mutual
/-- What does not refer back is left as it is. -/
theorem Tree.unfold_of_not_refersBack (write : Around → Nat → Tree) (around : Around)
    (tree : Tree) (free : tree.refersBack = false) : tree.unfold write around = tree := by
  cases tree with
  | scalar tag text => simp [Tree.unfold]
  | list tag items =>
    simp only [Tree.refersBack] at free
    simp [Tree.unfold, unfoldItems_of_not_refersBack write around.listed items free]
  | map tag entries =>
    simp only [Tree.refersBack] at free
    simp [Tree.unfold, unfoldEntries_of_not_refersBack write around entries free]
  | looped number tree => simp [Tree.refersBack] at free
  | again number => simp [Tree.refersBack] at free

theorem unfoldItems_of_not_refersBack (write : Around → Nat → Tree) (around : Around)
    (items : List Tree) (free : Tree.anyRefersBack items = false) :
    unfoldItems write around items = items := by
  cases items with
  | nil => simp [unfoldItems]
  | cons item rest =>
    simp only [Tree.anyRefersBack, Bool.or_eq_false_iff] at free
    simp [unfoldItems, Tree.unfold_of_not_refersBack write around item free.1,
      unfoldItems_of_not_refersBack write around rest free.2]

theorem unfoldEntries_of_not_refersBack (write : Around → Nat → Tree) (around : Around)
    (entries : List (Tree × Tree)) (free : Tree.anyEntryRefersBack entries = false) :
    unfoldEntries write around entries = entries := by
  cases entries with
  | nil => simp [unfoldEntries]
  | cons entry rest =>
    obtain ⟨key, value⟩ := entry
    simp only [Tree.anyEntryRefersBack, Bool.or_eq_false_iff] at free
    simp [unfoldEntries, Tree.unfold_of_not_refersBack write _ key free.1.1,
      Tree.unfold_of_not_refersBack write _ value free.1.2,
      unfoldEntries_of_not_refersBack write around rest free.2]
end

/-- A document without references back is its tree. -/
theorem Document.unrolled_of_not_refersBack (document : Document)
    (free : document.root.refersBack = false) : document.unrolled = document.root :=
  Tree.unfold_of_not_refersBack _ _ _ free

end SpecLint.Yaml
