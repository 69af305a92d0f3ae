import SpecLint.Code.Concrete
import SpecLint.Code.Node

/-!
# From concrete trees to code trees

Every concrete node reads as one code node, decided by its kind, its fields and the readings of its
children. Readings are built from the leaves up: a reading keeps the concrete node and the readings
of its children, so a construct may look below its children without converting anything twice.

Comments, heredoc bodies and empty statements are skipped wherever a construct lists its parts. A
bare identifier in statement position is a call without receiver and arguments.
-/
namespace SpecLint.Code

/-- A concrete node, the code node it reads as, and the readings of its children. -/
inductive Reading where
  | mk (tree : Concrete) (node : Node) (parts : List Reading)

namespace Reading

def tree : Reading → Concrete
  | mk tree _ _ => tree

def node : Reading → Node
  | mk _ node _ => node

def parts : Reading → List Reading
  | mk _ _ parts => parts

def kind (reading : Reading) : String := reading.tree.kind

end Reading

/-- Kinds that only wrap a sequence of statements. -/
def sequenceKinds : List String := ["body_statement", "then", "else", "block_body", "program"]

/-- Kinds that are never part of a construct. -/
def skippedKinds : List String := ["comment", "heredoc_body", "empty_statement"]

/-- The location of a concrete node. -/
def locationOf (source : Source) (tree : Concrete) : Option Location :=
  some (source.locate tree.start tree.stop)

def textOf (source : Source) (tree : Concrete) : String := source.text tree.start tree.stop

/-- A name without the colons in front of it. -/
def withoutColons (name : String) : String := String.ofList (name.toList.dropWhile (· = ':'))

/-- What stands where a required part is absent. -/
def missingPart : Node := .other "missing" [] none

/-- The first part with a field name. -/
def part? (parts : List Reading) (field : String) : Option Reading :=
  parts.find? fun part => part.tree.field == some field

def partsNamed (parts : List Reading) (field : String) : List Reading :=
  parts.filter fun part => part.tree.field == some field

/-- The named parts. -/
def namedParts (parts : List Reading) : List Reading := parts.filter (·.tree.named)

/-- The named parts that count. -/
def shownParts (parts : List Reading) : List Reading :=
  (namedParts parts).filter fun part => !skippedKinds.contains part.kind

/-- The named parts that count, those under the given fields left out. -/
def partsBeside (parts : List Reading) (fields : List String) : List Reading :=
  (shownParts parts).filter fun part => !part.tree.field.elim false fields.contains

/-- A part in statement position. -/
def statement (source : Source) (part : Reading) : Node :=
  if part.kind = "identifier" then
    .call none (textOf source part.tree) [] none (locationOf source part.tree)
  else part.node

/-- The statements that a part stands for. -/
def statements (source : Source) (part : Reading) : List Node :=
  if sequenceKinds.contains part.kind then (shownParts part.parts).map (statement source)
  else [statement source part]

def statementsOf (source : Source) : Option Reading → List Node
  | some part => statements source part
  | none => []

/-- The statements of a construct: those of its body, or all parts that belong to no header. -/
def bodyOf (source : Source) (parts : List Reading) (headers : List String) : List Node :=
  match part? parts "body" with
  | some body => statements source body
  | none => (partsBeside parts headers).map (statement source)

def nodeOf (part : Option Reading) : Option Node := part.map (·.node)

def requiredNode (part : Option Reading) : Node := (nodeOf part).getD missingPart

def nameOf (source : Source) (parts : List Reading) (field : String) : String :=
  (part? parts field).elim "" fun part => textOf source part.tree

theorem part?_mem {parts : List Reading} {field : String} {part : Reading}
    (found : part? parts field = some part) : part ∈ parts := List.mem_of_find?_eq_some found

theorem Reading.sizeOf_lt_of_mem_parts {part reading : Reading} (member : part ∈ reading.parts) :
    sizeOf part < sizeOf reading := by
  cases reading with
  | mk tree node parts =>
    simp only [Reading.parts] at member
    have := List.sizeOf_lt_of_mem member
    simp
    omega

/-- One arm of a chain: its condition and its consequence. -/
def chainArm (source : Source) (tree : Concrete) (parts : List Reading) : Node :=
  .arm (nodeOf (part? parts "condition")) (statementsOf source (part? parts "consequence"))
    (locationOf source tree)

/-- The arms that follow the first one of a chain, and the final alternative. -/
def chainRest (source : Source) (alternative : Reading) : List Node × Option (List Node) :=
  if alternative.kind = "elsif" then
    let arm := chainArm source alternative.tree alternative.parts
    match _next : part? alternative.parts "alternative" with
    | some further =>
      let (arms, orelse) := chainRest source further
      (arm :: arms, orelse)
    | none => ([arm], none)
  else ([], some (statements source alternative))
termination_by sizeOf alternative
decreasing_by exact Reading.sizeOf_lt_of_mem_parts (part?_mem _next)

/-- An `if` or `unless` with all its alternatives. -/
def chain (source : Source) (form : Branching) (negated : Bool) (tree : Concrete)
    (parts : List Reading) : Node :=
  let first := chainArm source tree parts
  let (arms, orelse) := match part? parts "alternative" with
    | some alternative => chainRest source alternative
    | none => ([], none)
  .conditional form (first :: arms) orelse negated (locationOf source tree)

/-- A condition behind a single statement. -/
def modified (source : Source) (negated : Bool) (tree : Concrete) (parts : List Reading) : Node :=
  let loc := locationOf source tree
  let body := (part? parts "body").toList.map (statement source)
  .conditional .modifier [.arm (nodeOf (part? parts "condition")) body loc] none negated loc

def ternaryOf (source : Source) (tree : Concrete) (parts : List Reading) : Node :=
  let loc := locationOf source tree
  let branch (field : String) : List Node := (nodeOf (part? parts field)).toList
  .conditional .ternary [.arm (nodeOf (part? parts "condition")) (branch "consequence") loc]
    (some (branch "alternative")) false loc

/-- One guarded arm of a case: its condition gathers all patterns. -/
def caseArm (source : Source) (part : Reading) : Node :=
  let loc := locationOf source part.tree
  let patterns := (partsNamed part.parts "pattern").map (·.node)
  .arm (some (.other "patterns" patterns loc)) (statementsOf source (part? part.parts "body")) loc

def caseFrom (source : Source) (tree : Concrete) (parts : List Reading) : Node :=
  let named := namedParts parts
  let arms := (named.filter fun part => part.kind = "when" ∨ part.kind = "in_clause").map
    (caseArm source)
  let orelse := (named.filter fun part => part.kind = "else").getLast?.map (statements source)
  .caseOf (nodeOf (part? parts "value")) arms orelse (locationOf source tree)

def blockOf (source : Source) (part : Reading) : Node :=
  .block (bodyOf source part.parts ["parameters"]) (locationOf source part.tree)

def callFrom (source : Source) (tree : Concrete) (parts : List Reading) : Node :=
  let attached := (part? parts "block").or
    ((namedParts parts).find? fun part => part.kind = "do_block" ∨ part.kind = "block")
  let args := (part? parts "arguments").elim [] fun part => (shownParts part.parts).map (·.node)
  let name := (part? parts "method").elim "call" fun part => textOf source part.tree
  .call (nodeOf (part? parts "receiver")) name args (attached.map (blockOf source))
    (locationOf source tree)

/-- The value of a return: nothing, one value, or several gathered under one node. -/
def returnFrom (source : Source) (tree : Concrete) (parts : List Reading) : Node :=
  let loc := locationOf source tree
  let values := (namedParts parts).flatMap fun part =>
    if part.kind = "argument_list" then (namedParts part.parts).map (·.node)
    else if skippedKinds.contains part.kind then []
    else [part.node]
  match values with
  | [] => .returned none loc
  | [value] => .returned (some value) loc
  | _ => .returned (some (.other "values" values loc)) loc

def unaryFrom (source : Source) (tree : Concrete) (parts : List Reading) : Node :=
  let loc := locationOf source tree
  let operand := requiredNode (part? parts "operand")
  match part? parts "operator" with
  | some operator =>
    if operator.kind = "defined?" then .defined operand loc else .other "unary" [operand] loc
  | none => .other "unary" [operand] loc

def parenthesized (source : Source) (tree : Concrete) (parts : List Reading) : Node :=
  match shownParts parts with
  | [inner] => inner.node
  | inner => .other "parenthesized" (inner.map (·.node)) (locationOf source tree)

/-- The content of a literal, unless it interpolates. -/
def literalContent? (source : Source) (parts : List Reading) : Option String :=
  let named := namedParts parts
  if named.any fun part => part.kind = "interpolation" then none
  else some (String.join (named.map fun part => textOf source part.tree))

/-- The superclass: the first named part of the field. -/
def superclassOf (parts : List Reading) : Option Node :=
  (part? parts "superclass").bind fun part => (namedParts part.parts).head?.map (·.node)

/-- The code node for a concrete node whose children have been read. -/
def build (source : Source) (tree : Concrete) (parts : List Reading) : Node :=
  let loc := locationOf source tree
  let node (field : String) : Option Node := nodeOf (part? parts field)
  match tree.kind with
  | "program" => .program ((shownParts parts).map (statement source)) loc
  | "class" =>
    .classDef (nameOf source parts "name") (superclassOf parts)
      (bodyOf source parts ["name", "superclass"]) loc
  | "module" => .moduleDef (nameOf source parts "name") (bodyOf source parts ["name"]) loc
  | "singleton_class" =>
    .singletonClass ((node "value").getD (.selfRef none)) (bodyOf source parts ["value"]) loc
  | "method" =>
    .methodDef (nameOf source parts "name") (bodyOf source parts ["name", "parameters"]) loc
  | "singleton_method" =>
    .singletonMethodDef ((node "object").getD (.selfRef none)) (nameOf source parts "name")
      (bodyOf source parts ["object", "name", "parameters"]) loc
  | "call" => callFrom source tree parts
  | "do_block" | "block" => .block (bodyOf source parts ["parameters"]) loc
  | "if" => chain source .ifChain false tree parts
  | "unless" => chain source .unlessChain true tree parts
  | "if_modifier" => modified source false tree parts
  | "unless_modifier" => modified source true tree parts
  | "conditional" => ternaryOf source tree parts
  | "case" | "case_match" => caseFrom source tree parts
  | "return" => returnFrom source tree parts
  | "operator_assignment" =>
    .opAssign (requiredNode (part? parts "left")) (nameOf source parts "operator")
      (requiredNode (part? parts "right")) loc
  | "assignment" =>
    .assign (requiredNode (part? parts "left")) (requiredNode (part? parts "right")) loc
  | "unary" => unaryFrom source tree parts
  | "parenthesized_statements" => parenthesized source tree parts
  | "element_reference" =>
    .index (requiredNode (part? parts "object")) ((partsBeside parts ["object"]).map (·.node)) loc
  | "instance_variable" => .instanceVar (textOf source tree) loc
  | "identifier" => .identifier (textOf source tree) loc
  | "self" => .selfRef loc
  | "constant" | "scope_resolution" => .const (withoutColons (textOf source tree)) loc
  | "simple_symbol" => .symbol (withoutColons (textOf source tree)) loc
  | "hash_key_symbol" => .symbol (textOf source tree) loc
  | "delimited_symbol" =>
    match literalContent? source parts with
    | some value => .symbol value loc
    | none => .other "dsym" [] loc
  | "string" => .str (literalContent? source parts) loc
  | kind => .other kind ((shownParts parts).map (·.node)) loc

mutual
/-- Read a concrete tree. -/
def read (source : Source) : Concrete → Reading
  | .node kind named missing start stop field children =>
    let parts := readAll source children
    let tree := Concrete.node kind named missing start stop field children
    .mk tree (build source tree parts) parts

def readAll (source : Source) : List Concrete → List Reading
  | [] => []
  | tree :: rest => read source tree :: readAll source rest
end

theorem readAll_eq_map (source : Source) (trees : List Concrete) :
    readAll source trees = trees.map (read source) := by
  induction trees with
  | nil => simp [readAll]
  | cons tree rest ih => simp [readAll, ih]

theorem tree_read (source : Source) (tree : Concrete) : (read source tree).tree = tree := by
  cases tree
  simp [read, Reading.tree]

/-- Comments and other skipped parts leave no trace among the parts that count. -/
theorem shownParts_cons_skipped {part : Reading} {parts : List Reading}
    (skipped : skippedKinds.contains part.kind = true) :
    shownParts (part :: parts) = shownParts parts := by
  simp only [shownParts, namedParts, List.filter_cons]
  split <;> simp_all

/-- The tree of a program: a root of another kind is wrapped. -/
def programOf (source : Source) (tree : Concrete) : Node :=
  match (read source tree).node with
  | .program body loc => .program body loc
  | root => .program [root] root.loc

end SpecLint.Code
