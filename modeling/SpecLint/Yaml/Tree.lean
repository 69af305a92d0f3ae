import SpecLint.Yaml.Tag
import SpecLint.Yaml.Token

/-!
# Documents as trees

The tokens of a text make at most one document. A node may carry a tag; an alias stands for the node
whose anchor it names, which may be one that the alias itself lies in. Where a node is left out, an
empty plain scalar stands for it. A fault among the tokens counts only if it is reached.
-/
namespace SpecLint.Yaml

inductive Tree where
  | scalar (tag : Tag) (text : String)
  | list (tag : Tag) (items : List Tree)
  | map (tag : Tag) (entries : List (Tree × Tree))
  /-- A node that contains itself, with a number to know it by. -/
  | looped (number : Nat) (tree : Tree)
  /-- The node around here that is known by a number. -/
  | again (number : Nat)
  deriving Repr

namespace Tree

/-- The node left out. -/
def empty : Tree := .scalar .null ""

/-- The node itself, without the number it is known by. -/
def bare : Tree → Tree
  | looped _ tree => tree.bare
  | other => other

def tag (tree : Tree) : Tag :=
  match tree.bare with
  | scalar tag _ | list tag _ | map tag _ => tag
  | _ => .other

def isMap (tree : Tree) : Bool :=
  match tree.bare with
  | map .. => true
  | _ => false

mutual
/-- Whether a node around the tree occurs in it. -/
def refersBack : Tree → Bool
  | .scalar .. => false
  | .list _ items => anyRefersBack items
  | .map _ entries => anyEntryRefersBack entries
  | .looped .. | .again _ => true

def anyRefersBack : List Tree → Bool
  | [] => false
  | item :: rest => item.refersBack || anyRefersBack rest

def anyEntryRefersBack : List (Tree × Tree) → Bool
  | [] => false
  | (key, value) :: rest => key.refersBack || value.refersBack || anyEntryRefersBack rest
end

end Tree

/-- What has been learnt while reading a document. -/
structure Reading where
  told : Told
  /-- What tag handles stand for. -/
  handles : List (String × String)
  /-- Nodes by anchor. -/
  anchors : List (String × Tree)
  /-- The number of nodes met so far. -/
  count : Nat
  /-- Nodes that contain themselves, by number. -/
  loops : List (Nat × Tree)

abbrev Reader := StateT Reading (Except Fault)

def refuse {α : Type} (cause : Cause) : Reader α := throw (.malformed cause 0)

/-- The next token; a fault if there may be one that cannot be told. -/
def peek : Reader (Option Token) := do
  let told := (← get).told
  match told.tokens.head?, told.fault with
  | none, some fault => throw fault
  | next, _ => return next

def take : Reader PUnit :=
  modify fun reading => { reading with told.tokens := reading.told.tokens.tail }

def accept (token : Token) : Reader Bool := do
  if (← peek) = some token then
    take
    return true
  else return false

/-- The handles known without a directive. -/
def defaultHandles : List (String × String) := [("!", "!"), ("!!", "tag:yaml.org,2002:")]

/-- The full name of a tag. -/
def fullName (handle : Option String) (suffix : String) : Reader String := do
  match handle with
  | none => return suffix
  | some handle =>
    match (← get).handles.lookup handle with
    | some expansion => return expansion ++ suffix
    | none => refuse .badTag

def readAnchor : Reader (Option String) := do
  match ← peek with
  | some (.anchor name) =>
    take
    return some name
  | _ => return none

def readTag : Reader (Option (Option String × String)) := do
  match ← peek with
  | some (.tag handle suffix) =>
    take
    return some (handle, suffix)
  | _ => return none

/-- The anchor and the name of the tag before a node, in any order. -/
def properties : Reader (Option String × Option String) := do
  let first ← readAnchor
  let tag ← readTag
  let anchor ← if first.isNone ∧ tag.isSome then readAnchor else pure first
  let name ← tag.mapM fun (handle, suffix) => fullName handle suffix
  return (anchor, name)

/-- The number of a new node. -/
def newNumber : Reader Nat :=
  modifyGet fun reading => (reading.count, { reading with count := reading.count + 1 })

/-- Remember an anchor before its node is read: inside the node it stands for the node around. -/
def openAnchor (anchor : Option String) (number : Nat) : Reader PUnit := do
  match anchor with
  | none => return
  | some name =>
    if ((← get).anchors.lookup name).isSome then refuse .repeatedAnchor
    else modify fun reading =>
      { reading with anchors := (name, .again number) :: reading.anchors }

/-- Finish a node, and remember it under its anchor. -/
def closeNode (anchor : Option String) (number : Nat) (tree : Tree) : Reader Tree := do
  let node := if tree.refersBack then .looped number tree else tree
  if tree.refersBack then
    modify fun reading => { reading with loops := (number, tree) :: reading.loops }
  match anchor with
  | none => return node
  | some name =>
    modify fun reading => { reading with anchors := (name, node) :: reading.anchors }
    return node

def aliasNode (name : String) : Reader Tree := do
  match (← get).anchors.lookup name with
  | some tree => return tree
  | none => refuse .unknownAlias

/-- The tag of a collection; a lone exclamation mark says nothing. -/
def collectionTag (usual : Tag) : Option String → Tag
  | none => usual
  | some name => if name = "!" then usual else .ofName name

/-- The tag of a scalar; a lone exclamation mark makes it plain. -/
def scalarTag (text : String) (plain : Bool) : Option String → Tag
  | none => if plain then .ofPlain text else .text
  | some name => if name = "!" then .ofPlain text else .ofName name

/-- Whether the next token is one of those before which a node is left out. -/
def nextIn (tokens : List Token) : Reader Bool := do
  return (← peek).any tokens.contains

mutual
/-- A node. Block collections are only read where `block` holds, a sequence without indentation of
its own only where `indentless` holds. -/
def node : Nat → Bool → Bool → Reader Tree
  | 0, _, _ => refuse .missingContent
  | fuel + 1, block, indentless => do
    match ← peek with
    | some (.reference name) =>
      take
      aliasNode name
    | _ =>
      let (anchor, tag) ← properties
      discard peek
      let number ← newNumber
      openAnchor anchor number
      closeNode anchor number (← content fuel block indentless anchor.isSome tag)

/-- The content of a node after its properties. -/
def content : Nat → Bool → Bool → Bool → Option String → Reader Tree
  | 0, _, _, _, _ => refuse .missingContent
  | fuel + 1, block, indentless, anchored, tag => do
    match ← peek with
    | some .entry =>
      if indentless then return .list (collectionTag .list tag) (← entries fuel true)
      else leftOut anchored tag
    | some (.scalar text plain) =>
      take
      return .scalar (scalarTag text plain tag) text
    | some .flowSequence =>
      take
      return .list (collectionTag .list tag) (← flowItems fuel true)
    | some .flowMapping =>
      take
      return .map (collectionTag .map tag) (← flowEntries fuel true)
    | some .blockSequence =>
      if block then
        take
        return .list (collectionTag .list tag) (← entries fuel false)
      else leftOut anchored tag
    | some .blockMapping =>
      if block then
        take
        return .map (collectionTag .map tag) (← mappings fuel)
      else leftOut anchored tag
    | _ => leftOut anchored tag

/-- A node of properties only is an empty scalar. -/
def leftOut (anchored : Bool) (tag : Option String) : Reader Tree :=
  if anchored ∨ tag.isSome then return .scalar (scalarTag "" true tag) ""
  else refuse .missingContent

/-- The entries of a block sequence; one without indentation ends where something else follows. -/
def entries : Nat → Bool → Reader (List Tree)
  | 0, _ => refuse .missingBlockEnd
  | fuel + 1, indentless => do
    if ← accept .entry then
      let absent ← nextIn
        (if indentless then [.entry, .key, .value, .blockEnd] else [.entry, .blockEnd])
      let item ← if absent then pure Tree.empty else node fuel true false
      return item :: (← entries fuel indentless)
    else if indentless then return []
    else if ← accept .blockEnd then return []
    else refuse .missingBlockEnd

/-- A key or value of a block mapping. -/
def mappingPart : Nat → Reader Tree
  | 0 => refuse .missingContent
  | fuel + 1 => do
    if ← nextIn [.key, .value, .blockEnd] then return Tree.empty else node fuel true true

/-- The entries of a block mapping. -/
def mappings : Nat → Reader (List (Tree × Tree))
  | 0 => refuse .missingBlockEnd
  | fuel + 1 => do
    if ← accept .key then
      let key ← mappingPart fuel
      let value ← if ← accept .value then mappingPart fuel else pure Tree.empty
      return (key, value) :: (← mappings fuel)
    else if ← accept .blockEnd then return []
    else refuse .missingBlockEnd

/-- A node inside brackets, left out before one of the tokens. -/
def flowPart : Nat → List Token → Reader Tree
  | 0, _ => refuse .missingContent
  | fuel + 1, ends => do
    if ← nextIn ends then return Tree.empty else node fuel false false

/-- The items of a sequence in brackets; an item may be a mapping of one entry. -/
def flowItems : Nat → Bool → Reader (List Tree)
  | 0, _ => refuse .missingSeparator
  | fuel + 1, first => do
    if ← accept .flowSequenceEnd then return []
    else
      if !first then
        if !(← accept .separator) then refuse .missingSeparator
      if ← accept .key then
        let key ← flowPart fuel [.value, .separator, .flowSequenceEnd]
        let value ← if ← accept .value then flowPart fuel [.separator, .flowSequenceEnd]
          else pure Tree.empty
        let item ← closeNode none (← newNumber) (.map .map [(key, value)])
        return item :: (← flowItems fuel false)
      else if ← accept .flowSequenceEnd then return []
      else
        let item ← node fuel false false
        return item :: (← flowItems fuel false)

/-- The entries of a mapping in brackets; an entry may lack its value. -/
def flowEntries : Nat → Bool → Reader (List (Tree × Tree))
  | 0, _ => refuse .missingSeparator
  | fuel + 1, first => do
    if ← accept .flowMappingEnd then return []
    else
      if !first then
        if !(← accept .separator) then refuse .missingSeparator
      if ← accept .key then
        let key ← flowPart fuel [.value, .separator, .flowMappingEnd]
        let value ← if ← accept .value then flowPart fuel [.separator, .flowMappingEnd]
          else pure Tree.empty
        return (key, value) :: (← flowEntries fuel false)
      else if ← accept .flowMappingEnd then return []
      else
        let key ← node fuel false false
        return (key, Tree.empty) :: (← flowEntries fuel false)
end

/-- Directives before a document: at most one version, of the first generation, and each handle
once. -/
def directives : Nat → Bool → List (String × String) → Reader (List (String × String))
  | 0, _, handles => return handles
  | fuel + 1, versioned, handles => do
    match ← peek with
    | some (.directive name value) =>
      take
      match name, value with
      | "YAML", some (major, _) =>
        if versioned ∨ Number.digitsValue major.toList ≠ 1 then refuse .badDirective
        else directives fuel true handles
      | "TAG", some (handle, expansion) =>
        if (handles.lookup handle).isSome then refuse .badDirective
        else directives fuel versioned ((handle, expansion) :: handles)
      | _, _ => directives fuel versioned handles
    | _ => return handles

/-- Skip marks of the end of a document. -/
def skipEnds : Nat → Reader PUnit
  | 0 => return
  | fuel + 1 => do
    if ← accept .documentEnd then skipEnds fuel

/-- Directives and the mark of the start of a document. -/
def announcement (fuel : Nat) : Reader PUnit := do
  let handles ← directives fuel false []
  modify fun reading => { reading with handles := handles ++ defaultHandles }
  if !(← accept .documentStart) then refuse .missingDocumentStart

/-- A document that is announced. -/
def explicitDocument (fuel : Nat) : Reader Tree := do
  announcement fuel
  match ← peek with
  | none | some (.directive ..) | some .documentStart | some .documentEnd => return Tree.empty
  | some _ => node fuel true false

/-- The document of a text, if it has one. -/
def document (fuel : Nat) : Reader (Option Tree) := do
  match ← peek with
  | none => return none
  | some first =>
    let tree ← match first with
      | .directive .. | .documentStart => explicitDocument fuel
      | _ => node fuel true false
    skipEnds fuel
    if (← peek).isSome then
      announcement fuel
      refuse .secondDocument
    else return some tree

/-- A document, with the nodes that contain themselves by number. -/
structure Document where
  root : Tree
  loops : List (Nat × Tree)
  deriving Repr

/-- The document of a text; none if there is none in it. -/
def Document.ofText (text : List Char) : Except Fault (Option Document) := do
  let told := tokensOf text
  let (root, reading) ← (document (4 * told.tokens.length + 4)).run
    ⟨told, defaultHandles, [], 0, []⟩
  return root.map (⟨·, reading.loops⟩)

end SpecLint.Yaml
