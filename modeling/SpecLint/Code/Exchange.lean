import SpecLint.Code.Concrete
import SpecLint.Code.Node
import SpecLint.Data.Value

/-!
# Trees as data

Both kinds of trees are exchanged as plain data. A concrete node is a list of its kind, its flags,
its span, its field and its children, where what is absent at the end is left out. A code node is a
record of its variant, its fields and its location. Reading accepts what writing produces.
-/
namespace SpecLint.Code

open SpecLint.Data

/-! ## Concrete trees -/

/-- The field name that a scalar gives. -/
def fieldName? : Scalar → Option String
  | .text name => some name
  | _ => none

mutual
/-- Read a concrete tree; `none` if the data are no such tree. -/
def Concrete.ofValue? : Value → Option Concrete
  | .list [.text kind, .int flags, .int start, .int stop] =>
    some (.node kind (flags % 2 == 1) (flags / 2 == 1) start.toNat stop.toNat none [])
  | .list [.text kind, .int flags, .int start, .int stop, .scalar field] =>
    some (.node kind (flags % 2 == 1) (flags / 2 == 1) start.toNat stop.toNat (fieldName? field) [])
  | .list [.text kind, .int flags, .int start, .int stop, .scalar field, .list children] => do
    let children ← Concrete.ofValues? children
    return .node kind (flags % 2 == 1) (flags / 2 == 1) start.toNat stop.toNat (fieldName? field)
      children
  | _ => none

def Concrete.ofValues? : List Value → Option (List Concrete)
  | [] => some []
  | value :: rest => do
    let first ← Concrete.ofValue? value
    let others ← Concrete.ofValues? rest
    return first :: others
end

/-! ## Code trees -/

def Location.toValue (loc : Location) : Value :=
  .list [.nat loc.line, .nat loc.column, .nat loc.endLine, .nat loc.endColumn]

def Branching.name : Branching → String
  | ifChain => "if"
  | unlessChain => "unless"
  | modifier => "modifier"
  | ternary => "ternary"

def Branching.all : List Branching := [.ifChain, .unlessChain, .modifier, .ternary]

/-- Any other word means an `if` chain. -/
def Branching.ofName (name : String) : Branching :=
  (Branching.all.find? (·.name == name)).getD .ifChain

theorem Branching.ofName_name (form : Branching) : ofName form.name = form := by
  cases form <;> decide

namespace Node

/-- How data call the variants. -/
def variant : Node → String
  | program .. => "Program"
  | block .. => "Block"
  | classDef .. => "ClassDef"
  | moduleDef .. => "ModuleDef"
  | singletonClass .. => "SingletonClass"
  | methodDef .. => "MethodDef"
  | singletonMethodDef .. => "SingletonMethodDef"
  | call .. => "Call"
  | arm .. => "Arm"
  | conditional .. => "Conditional"
  | caseOf .. => "Case"
  | opAssign .. => "OpAssign"
  | assign .. => "Assign"
  | returned .. => "Return"
  | defined .. => "Defined"
  | index .. => "Index"
  | instanceVar .. => "InstanceVar"
  | identifier .. => "Identifier"
  | selfRef .. => "SelfRef"
  | const .. => "Const"
  | symbol .. => "Symbol"
  | str .. => "Str"
  | other .. => "Other"

mutual
/-- The tree as data. -/
def toValue (node : Node) : Value :=
  .record (("t", .text node.variant) :: ("loc", .optional Location.toValue node.loc) :: node.fields)

/-- The fields of a node as data. -/
def fields : Node → List (String × Value)
  | program body _ | block body _ => [("body", .list (toValues body))]
  | classDef name superclass body _ =>
    [("name", .text name), ("superclass", ofOptional superclass), ("body", .list (toValues body))]
  | moduleDef name body _ | methodDef name body _ =>
    [("name", .text name), ("body", .list (toValues body))]
  | singletonClass target body _ => [("target", target.toValue), ("body", .list (toValues body))]
  | singletonMethodDef receiver name body _ =>
    [("receiver", receiver.toValue), ("name", .text name), ("body", .list (toValues body))]
  | call receiver name args attached _ =>
    [("receiver", ofOptional receiver), ("name", .text name), ("args", .list (toValues args)),
      ("block", ofOptional attached)]
  | arm condition body _ =>
    [("condition", ofOptional condition), ("body", .list (toValues body))]
  | conditional form arms orelse negated _ =>
    [("kind", .text form.name), ("arms", .list (toValues arms)), ("orelse", ofOptionalList orelse),
      ("negated", .bool negated)]
  | caseOf subject arms orelse _ =>
    [("subject", ofOptional subject), ("arms", .list (toValues arms)),
      ("orelse", ofOptionalList orelse)]
  | opAssign target operator value _ =>
    [("target", target.toValue), ("operator", .text operator), ("value", value.toValue)]
  | assign target value _ => [("target", target.toValue), ("value", value.toValue)]
  | returned value _ => [("value", ofOptional value)]
  | defined operand _ => [("operand", operand.toValue)]
  | index receiver args _ => [("receiver", receiver.toValue), ("args", .list (toValues args))]
  | instanceVar name _ | identifier name _ | const name _ => [("name", .text name)]
  | selfRef _ => []
  | symbol value _ => [("value", .text value)]
  | str value _ => [("value", .optional .text value)]
  | other kind children _ => [("kind", .text kind), ("children", .list (toValues children))]

def toValues : List Node → List Value
  | [] => []
  | node :: rest => node.toValue :: toValues rest

def ofOptional : Option Node → Value
  | some node => node.toValue
  | none => .null

def ofOptionalList : Option (List Node) → Value
  | some nodes => .list (toValues nodes)
  | none => .null
end

end Node

/-- A part of a tree, read from data. -/
inductive Piece where
  | scalar (value : Scalar)
  | node (node : Node)
  | list (pieces : List Piece)
  /-- A record that is no node. -/
  | unclear

namespace Piece

def text? : Piece → Option String
  | scalar (.text written) => some written
  | _ => none

def flag? : Piece → Option Bool
  | scalar (.bool value) => some value
  | _ => none

def nat? : Piece → Option Nat
  | scalar (.int value) => some value.toNat
  | _ => none

def node? : Piece → Option Node
  | node tree => some tree
  | _ => none

def nodes? : Piece → Option (List Node)
  | list pieces => pieces.mapM node?
  | _ => none

/-- What may be absent is null. -/
def optional? {α : Type} (reader : Piece → Option α) : Piece → Option (Option α)
  | scalar .null => some none
  | piece => (reader piece).map some

def location? : Piece → Option Location
  | list [line, column, endLine, endColumn] =>
    return ⟨← line.nat?, ← column.nat?, ← endLine.nat?, ← endColumn.nat?⟩
  | _ => none

end Piece

/-- The node that a record of these fields stands for. -/
def Node.ofFields? (fields : List (String × Piece)) : Option Node := do
  let field (name : String) : Option Piece := fields.lookup name
  let text (name : String) : Option String := field name >>= Piece.text?
  let one (name : String) : Option Node := field name >>= Piece.node?
  let some? (name : String) : Option (Option Node) := field name >>= Piece.optional? Piece.node?
  let many (name : String) : Option (List Node) := field name >>= Piece.nodes?
  let many? (name : String) : Option (Option (List Node)) :=
    field name >>= Piece.optional? Piece.nodes?
  let loc ← field "loc" >>= Piece.optional? Piece.location?
  match ← text "t" with
  | "Program" => return .program (← many "body") loc
  | "Block" => return .block (← many "body") loc
  | "ClassDef" => return .classDef (← text "name") (← some? "superclass") (← many "body") loc
  | "ModuleDef" => return .moduleDef (← text "name") (← many "body") loc
  | "SingletonClass" => return .singletonClass (← one "target") (← many "body") loc
  | "MethodDef" => return .methodDef (← text "name") (← many "body") loc
  | "SingletonMethodDef" =>
    return .singletonMethodDef (← one "receiver") (← text "name") (← many "body") loc
  | "Call" =>
    return .call (← some? "receiver") (← text "name") (← many "args") (← some? "block") loc
  | "Arm" => return .arm (← some? "condition") (← many "body") loc
  | "Conditional" =>
    let form := Branching.ofName (← text "kind")
    let negated ← field "negated" >>= Piece.flag?
    return .conditional form (← many "arms") (← many? "orelse") negated loc
  | "Case" => return .caseOf (← some? "subject") (← many "arms") (← many? "orelse") loc
  | "OpAssign" => return .opAssign (← one "target") (← text "operator") (← one "value") loc
  | "Assign" => return .assign (← one "target") (← one "value") loc
  | "Return" => return .returned (← some? "value") loc
  | "Defined" => return .defined (← one "operand") loc
  | "Index" => return .index (← one "receiver") (← many "args") loc
  | "InstanceVar" => return .instanceVar (← text "name") loc
  | "Identifier" => return .identifier (← text "name") loc
  | "SelfRef" => return .selfRef loc
  | "Const" => return .const (← text "name") loc
  | "Symbol" => return .symbol (← text "value") loc
  | "Str" => return .str (← field "value" >>= Piece.optional? Piece.text?) loc
  | "Other" => return .other (← text "kind") (← many "children") loc
  | _ => none

mutual
def Piece.ofValue : Value → Piece
  | .scalar value => .scalar value
  | .list items => .list (Piece.ofValues items)
  | .map entries => match Node.ofFields? (Piece.ofEntries entries) with
    | some tree => .node tree
    | none => .unclear
  | .tuple _ | .set _ | .looped .. => .unclear

def Piece.ofValues : List Value → List Piece
  | [] => []
  | value :: rest => Piece.ofValue value :: Piece.ofValues rest

def Piece.ofEntries : List (Scalar × Value) → List (String × Piece)
  | [] => []
  | (.text name, value) :: rest => (name, Piece.ofValue value) :: Piece.ofEntries rest
  | _ :: rest => Piece.ofEntries rest
end

/-- Read a code tree; `none` if the data are no such tree. -/
def Node.ofValue? (value : Value) : Option Node := (Piece.ofValue value).node?

end SpecLint.Code
