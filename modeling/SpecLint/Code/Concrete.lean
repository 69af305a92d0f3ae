import SpecLint.Code.Location

/-!
# Concrete trees

The grammar delivers a tree whose nodes are spans of the source. A node is named when it stands for
a construct, unnamed when it is a token; a missing node is one the grammar had to invent. A node may
carry the field name under which its parent holds it.
-/
namespace SpecLint.Code

inductive Concrete where
  | node (kind : String) (named missing : Bool) (start stop : Nat) (field : Option String)
      (children : List Concrete)
  deriving Repr, Inhabited

namespace Concrete

def kind : Concrete → String
  | node kind .. => kind

def named : Concrete → Bool
  | node _ named .. => named

def missing : Concrete → Bool
  | node _ _ missing .. => missing

def start : Concrete → Nat
  | node _ _ _ start .. => start

def stop : Concrete → Nat
  | node _ _ _ _ stop .. => stop

def field : Concrete → Option String
  | node _ _ _ _ _ field _ => field

def children : Concrete → List Concrete
  | node _ _ _ _ _ _ children => children

/-- Whether the node records a syntax error. -/
def isError (tree : Concrete) : Bool := tree.kind == "ERROR" || tree.missing

mutual
/-- The number of nodes, tokens included. -/
def count : Concrete → Nat
  | node _ _ _ _ _ _ children => 1 + countAll children

def countAll : List Concrete → Nat
  | [] => 0
  | tree :: rest => tree.count + countAll rest
end

mutual
/-- The number of nodes that record a syntax error. -/
def errors : Concrete → Nat
  | node kind named missing start stop field children =>
    (if (node kind named missing start stop field children).isError then 1 else 0) +
      errorsAll children

def errorsAll : List Concrete → Nat
  | [] => 0
  | tree :: rest => tree.errors + errorsAll rest
end

/-- A construct in which the grammar invents nothing. -/
def construct (kind : String) (start stop : Nat) (field : Option String)
    (children : List Concrete) : Concrete :=
  .node kind true false start stop field children

def token (kind : String) (start stop : Nat) : Concrete := .node kind false false start stop none []

/-- An empty program. -/
def empty : Concrete := .node "program" true false 0 0 none []

theorem count_pos (tree : Concrete) : 0 < tree.count := by
  cases tree
  simp only [count]
  omega

end Concrete

end SpecLint.Code
