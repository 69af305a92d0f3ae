import SpecLint.CodeUnit.Name
import SpecLint.Code.Site

/-!
# Headers and scenarios in a spec

A spec describes a unit by a `describe` call that names it, possibly inside modules and classes that
give the first constants of the name. A routine is described by a `describe` or `context` call with
its key as title. The scenarios of a header are its immediate contexts, plus one for all the
examples that stand directly under it.
-/
namespace SpecLint.Spec

open SpecLint.Code SpecLint.Text

/-- The constant through which RSpec's words may be called. -/
def rspecConstant : String := "RSpec"

/-- Without a receiver, or with the RSpec constant as receiver. -/
def isRSpecReceiver : Option Node → Bool
  | none => true
  | some (.const name _) => name == rspecConstant
  | some _ => false

/-- A word with its focused and skipped forms. -/
def withFocus (word : String) : List String := [word, "f" ++ word, "x" ++ word]

def contextWords : List String := withFocus "context"

def headerWords : List String := withFocus "describe" ++ withFocus "context"

def exampleCalls : List String :=
  withFocus "it" ++ withFocus "example" ++ withFocus "specify" ++ withFocus "scenario" ++ ["its"]

/-- Whether a node calls one of RSpec's words. -/
def callsOneOf (words : List String) : Node → Bool
  | .call receiver name _ _ _ => words.contains name && isRSpecReceiver receiver
  | _ => false

/-- The constant that a `describe` call names. -/
def describedConstant? : Node → Option String
  | .call receiver name (.const constant _ :: _) _ _ =>
    if name = "describe" ∧ isRSpecReceiver receiver then some constant else none
  | _ => none

/-- The title of a header call. -/
def title? (node : Node) : Option String :=
  match node with
  | .call _ _ (.str title _ :: _) _ _ => if callsOneOf headerWords node then title else none
  | _ => none

def hasBlock : Node → Bool
  | .call _ _ _ attached _ => attached.isSome
  | _ => false

/-- The opening that a wrapping class or module gives to names inside it. -/
def wrapper? : Node → Option (List Char)
  | .moduleDef name _ _ | .classDef name _ _ _ =>
    some (CodeUnit.withoutColons name.toList ++ [':', ':'])
  | _ => none

theorem sizeOf_lt_of_mem_body {inner node : Node} (member : inner ∈ node.body) :
    sizeOf inner < sizeOf node := by
  have inList {items : List Node} (present : inner ∈ items) : sizeOf inner < sizeOf items :=
    List.sizeOf_lt_of_mem present
  cases node <;> simp only [Node.body, List.not_mem_nil] at member <;>
    first
      | (have below := inList member; simp; omega)
      | skip
  case call receiver name args attached loc =>
    cases attached with
    | none => simp at member
    | some attached =>
      cases attached <;> simp only [List.not_mem_nil] at member
      have below := inList member
      simp
      omega

/-- The headers of a unit in one statement; wrappers take their part of the name. -/
def unitHeadersIn (name : List Char) (statement : Node) : List Node :=
  if (describedConstant? statement).any fun constant =>
      CodeUnit.withoutColons constant.toList == name then [statement]
  else match wrapper? statement with
    | none => []
    | some opening =>
      if opening.isPrefixOf name then
        statement.body.attach.flatMap fun inner =>
          unitHeadersIn (name.drop opening.length) inner.1
      else []
termination_by sizeOf statement
decreasing_by exact sizeOf_lt_of_mem_body inner.2

theorem unitHeadersIn_eq (name : List Char) (statement : Node) :
    unitHeadersIn name statement =
      if (describedConstant? statement).any fun constant =>
          CodeUnit.withoutColons constant.toList == name then [statement]
      else match wrapper? statement with
        | none => []
        | some opening =>
          if opening.isPrefixOf name then
            statement.body.flatMap (unitHeadersIn (name.drop opening.length))
          else [] := by
  rw [unitHeadersIn]
  split
  · rfl
  · split
    · rfl
    · simp [List.flatMap_subtype]

/-- The `describe` calls of a spec that name a unit, in source order. -/
def unitHeaders (tree : Node) (name : String) : List Node :=
  tree.body.flatMap (unitHeadersIn name.toList)

def declaresUnit (tree : Node) (name : String) : Bool := !(unitHeaders tree name).isEmpty

/-- Take a site that passes a test, unless it lies inside one that is taken already. -/
def takeOutermost (test : Node → Bool) (taken : List Site) (site : Site) : List Site :=
  if test site.node && !site.ancestors.any fun outer => taken.any outer.same then taken ++ [site]
  else taken

/-- The outermost sites of a tree that pass a test, in the order of a walk. -/
def outermostSites (test : Node → Bool) (tree : Node) : List Site :=
  (Site.root tree).walk.foldl (takeOutermost test) []

/-- A header call with a block and one of the titles. -/
def isHeaderTitled (titles : List String) (node : Node) : Bool :=
  hasBlock node && (title? node).any titles.contains

/-- Where the headers with one of the titles stand; one inside another belongs to that one's
scenarios. -/
def headerSites (tree : Node) (titles : List String) : List Site :=
  outermostSites (isHeaderTitled titles) tree

def findHeaders (tree : Node) (titles : List String) : List Node :=
  (headerSites tree titles).map (·.node)

/-- The scenarios of a header. -/
def scenarioCount (header : Node) : Nat :=
  let contexts := header.body.filter (callsOneOf contextWords)
  contexts.length + if header.body.any (callsOneOf exampleCalls) then 1 else 0

/-- The scenarios of some headers, if there are any. -/
def scenarios (headers : List Node) : Option Nat :=
  if headers.isEmpty then none else some ((headers.map scenarioCount).foldr (· + ·) 0)

/-- The scenarios under all headers with one of the titles, if there are such headers. -/
def countContexts (tree : Node) (titles : List String) : Option Nat :=
  scenarios (findHeaders tree titles)

/-- The scenarios directly under the headers of a unit, if there are such headers. -/
def countUnitContexts (tree : Node) (name : String) : Option Nat :=
  scenarios ((unitHeaders tree name).filter hasBlock)

theorem scenarios_eq_none_iff (headers : List Node) : scenarios headers = none ↔ headers = [] := by
  simp [scenarios, List.isEmpty_iff]

end SpecLint.Spec
