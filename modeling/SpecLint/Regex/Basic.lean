import SpecLint.Text.Word
import SpecLint.Text.Blank
import SpecLint.Text.Case

/-!
# Patterns

Names are excluded from checking by patterns in the usual notation. A pattern is a tree; flags such
as ignoring case are resolved when it is read, so every leaf says for itself what it accepts.
-/
namespace SpecLint

namespace Regex

/-- The classes of characters that have a letter of their own. -/
inductive Category where
  | digit
  | space
  | word
  deriving DecidableEq, Repr

/-- Whether a character belongs to a category, of all scripts or of ASCII only. -/
def Category.holds (ascii : Bool) (c : Char) : Category → Bool
  | .digit => Text.isDecimalDigit c && (!ascii || c.toNat < 128)
  | .space =>
    if ascii then Text.isAsciiBlank c else Text.isBlank c
  | .word => Text.isWord c && (!ascii || c.toNat < 128)

/-- One item of a character set; characters are given by code. -/
inductive SetItem where
  | letter (code : Nat)
  | range (low high : Nat)
  | category (kind : Category) (ascii negated : Bool)
  deriving DecidableEq, Repr

/-- Which differences of case do not count. -/
inductive Folding where
  | exact
  /-- Only those between letters of ASCII. -/
  | ascii
  | full
  deriving DecidableEq, Repr

/-- The codes that a character matches in a set. -/
def Folding.sources (c : Char) : Folding → List Nat
  | exact => [c.toNat]
  | ascii => [c.toLower.toNat, c.toUpper.toNat]
  | full => Text.foldSources c

/-- Whether two characters match where a group is repeated. -/
def Folding.same (left right : Char) : Folding → Bool
  | exact => left == right
  | ascii => left.toLower == right.toLower
  | full => Text.lowerChar left == Text.lowerChar right

theorem Folding.same_refl (c : Char) (folding : Folding) : folding.same c c = true := by
  cases folding <;> simp [same]

/-- Codes from here on lie beyond the basic plane. -/
def planeEnd : Nat := 0x10000

/-- Whether an item accepts a character. Without regard to case, a code beyond the basic plane that
is not `alone` in its set is compared with the lower case only; and where only the case of ASCII
does not count, a range that reaches beyond the plane also accepts the lower case of what is in
it. -/
def SetItem.holds (folding : Folding) (alone : Bool) (c : Char) : SetItem → Bool
  | .letter code =>
    if !alone ∧ planeEnd ≤ code ∧ folding = .full then (Text.lowerChar c).toNat == code
    else (folding.sources c).contains code
  | .range low high =>
    let inside (code : Nat) : Bool := decide (low ≤ code) && decide (code ≤ high)
    (folding.sources c).any inside ||
      (folding == .ascii && decide (planeEnd ≤ high) && inside (Text.titleCode c.toNat))
  | .category kind ascii negated => negated != kind.holds ascii c

/-- Whether one of the items of a set accepts a character. -/
def inSet (folding : Folding) (items : List SetItem) (c : Char) : Bool :=
  items.any (·.holds folding (items.length == 1) c)

/-- How a repetition chooses its length. -/
inductive Greed where
  | greedy
  | lazy
  /-- Takes as much as it can and never gives any back. -/
  | possessive
  deriving DecidableEq, Repr

end Regex

open Regex in
inductive Regex where
  | empty
  /-- One character of a set, or outside of it. -/
  | oneOf (negated : Bool) (folding : Folding) (items : List SetItem)
  /-- Any character; a line end only when `lines` holds. -/
  | any (lines : Bool)
  | lineStart (every : Bool)
  | lineEnd (every : Bool)
  | textStart
  | textEnd
  | boundary (ascii negated : Bool)
  | seq (first second : Regex)
  | alt (first second : Regex)
  | group (index : Option Nat) (body : Regex)
  | loop (least : Nat) (most : Option Nat) (greed : Greed) (body : Regex)
  /-- Take the first way in which the body matches. -/
  | atomic (body : Regex)
  | ahead (negated : Bool) (body : Regex)
  | behind (negated : Bool) (body : Regex)
  | again (folding : Folding) (index : Nat)
  /-- Choose by whether a group has matched. -/
  | choose (index : Nat) (yes no : Regex)
  deriving Repr

namespace Regex

def ofList : List Regex → Regex
  | [] => .empty
  | [item] => item
  | item :: items => .seq item (ofList items)

/-- Groups without a number mean what they hold. -/
def bare : Regex → Regex
  | group none body => body.bare
  | other => other

/-- One set for several alternatives, if each is a set of what it accepts. -/
def joinedSets? : List Regex → Option (Folding × List SetItem)
  | [] => none
  | [item] => match item.bare with
    | oneOf false folding items => some (folding, items)
    | _ => none
  | item :: others => match item.bare, joinedSets? others with
    | oneOf false folding items, some (shared, rest) =>
      if folding = shared then some (folding, items ++ rest) else none
    | _, _ => none

def altOf : List Regex → Regex
  | [] => .empty
  | [item] => item
  | item :: items => .alt item (altOf items)

/-- Alternatives; those that are sets are one set. -/
def ofAlternatives (items : List Regex) : Regex :=
  match joinedSets? items with
  | some (folding, joined) => .oneOf false folding joined.eraseDups
  | none => altOf items

/-- The code of one character as a set. -/
def literal (folding : Folding) (code : Nat) : Regex :=
  .oneOf false folding [.letter code]

/-- Assertions about a position, which cannot be repeated. -/
def isPosition : Regex → Bool
  | lineStart _ | lineEnd _ | textStart | textEnd | boundary .. => true
  | _ => false

def isLoop : Regex → Bool
  | loop .. => true
  | _ => false

/-- The least and the greatest number of characters a match takes; the latter may be unbounded. -/
structure Width where
  least : Nat
  most : Option Nat
  deriving DecidableEq, Repr

namespace Width

def zero : Width := ⟨0, some 0⟩

def one : Width := ⟨1, some 1⟩

def add (first second : Width) : Width :=
  ⟨first.least + second.least, do return (← first.most) + (← second.most)⟩

def either (first second : Width) : Width :=
  ⟨min first.least second.least, do return max (← first.most) (← second.most)⟩

def repeated (width : Width) (least : Nat) (most : Option Nat) : Width :=
  ⟨width.least * least,
    if width.most = some 0 then some 0 else do return (← width.most) * (← most)⟩

end Width

/-- The width of a pattern, given those of the groups it may refer to. -/
def width (groups : Nat → Width) : Regex → Width
  | empty | lineStart _ | lineEnd _ | textStart | textEnd | boundary .. => .zero
  | ahead .. | behind .. => .zero
  | oneOf .. | any _ => .one
  | seq first second => (first.width groups).add (second.width groups)
  | alt first second => (first.width groups).either (second.width groups)
  | group _ body | atomic body => body.width groups
  | loop least most _ body => (body.width groups).repeated least most
  | again _ index => groups index
  | choose _ yes no => (yes.width groups).either (no.width groups)

end Regex

end SpecLint
