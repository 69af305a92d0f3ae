import SpecLint.Report.Style
import SpecLint.Text.Columns
import SpecLint.Text.Emoji

/-!
# Markup

A line for the terminal is written in a markup: a tag of a style name in brackets opens the style,
and the same tag with a slash closes it, or a lone slash the style opened last. Emoji are written by
name. A backslash before a tag takes its meaning away, and a backslash before that one takes it away
from the backslash. What reaches a plain terminal is the text alone. A tag that closes what is not
open is a fault.
-/
namespace SpecLint.Report

open SpecLint.Text

/-- A part of a line in markup. -/
inductive Piece where
  | text (text : List Char)
  | opening (name : List Char) (parameters : Option (List Char))
  | closing (name : List Char)
  deriving DecidableEq, Repr

/-- What can follow the bracket of a tag. -/
def opensTag (c : Char) : Bool := ('a' ≤ c && c ≤ 'z') || c = '#' || c = '/' || c = '@'

/-- The inside of a tag and the text after it, where `rest` starts behind its opening bracket. -/
def insideTag? (rest : List Char) : Option (List Char × List Char) :=
  match rest with
  | first :: _ =>
    if opensTag first then
      let inside := rest.takeWhile fun c => c ≠ ']' && c ≠ '['
      match rest.drop inside.length with
      | ']' :: after => some (inside, after)
      | _ => none
    else none
  | [] => none

/-- A tag by what is between its brackets: a name, and perhaps parameters behind an equal sign. -/
def Piece.ofTag (inside : List Char) : Piece :=
  let name := inside.takeWhile (· ≠ '=')
  match name with
  | '/' :: name => .closing name
  | name => .opening name (inside.drop name.length).tail?

/-- The text read so far as a piece, if there is any. -/
def pending (read : List Char) : List Piece := if read = [] then [] else [.text read.reverse]

/-- The pieces of a line; the text read since the last tag is given in reverse. -/
def piecesFrom : Nat → List Char → List Char → List Piece
  | 0, read, text => pending (text.reverse ++ read)
  | _ + 1, read, [] => pending read
  | fuel + 1, read, c :: rest =>
    let slashes := (c :: rest).takeWhile (· = '\\')
    match (c :: rest).drop slashes.length with
    | '[' :: inner => match insideTag? inner with
      | some (inside, after) =>
        let tag := if slashes.length % 2 = 1 then .text ('[' :: (inside ++ [']']))
          else Piece.ofTag inside
        pending read ++ pending (slashes.take (slashes.length / 2)) ++
          tag :: piecesFrom fuel [] after
      | none => piecesFrom fuel ('[' :: (slashes ++ read)) inner
    | after =>
      if slashes = [] then piecesFrom fuel (c :: read) rest
      else piecesFrom fuel (slashes ++ read) after

def pieces (markup : List Char) : List Piece := piecesFrom markup.length [] markup

/-- Why a line in markup cannot be shown. -/
inductive MarkupFault where
  | nothingToClose
  | notOpen (style : String)
  /-- A link to an action is malformed. -/
  | malformedAction
  deriving DecidableEq, Repr

def MarkupFault.message : MarkupFault → String
  | nothingToClose => "a closing tag has nothing to close"
  | notOpen style => "the closing tag of '" ++ style ++ "' doesn't match any open tag"
  | malformedAction => "the parameters of an action are malformed"

/-- A style that is open. -/
structure OpenStyle where
  style : String
  parameters : Option (List Char)
  deriving DecidableEq, Repr

/-- An action is a dotted name, perhaps with parameters in parentheses. -/
def isAction (parameters : List Char) : Bool :=
  match (trim parameters).dropWhile fun c => isWord c || c = '.' with
  | [] => true
  | '(' :: rest => rest.getLast? = some ')'
  | _ => false

/-- A style may be closed; that of an action only if the action is well-formed. -/
def OpenStyle.close (tag : OpenStyle) : Except MarkupFault PUnit :=
  if "@".isPrefixOf tag.style ∧ !tag.parameters.all isAction then .error .malformedAction
  else .ok ()

/-- A text without the backslashes before brackets. -/
def unescaped : List Char → List Char
  | [] => []
  | '\\' :: '[' :: rest => '[' :: unescaped rest
  | c :: rest => c :: unescaped rest

/-- What the pieces show while some styles are open, the last one first. -/
def shownFrom (styles : List OpenStyle) : List Piece → Except MarkupFault (List Char)
  | [] => .ok []
  | .text text :: rest => do return withEmoji (unescaped text) ++ (← shownFrom styles rest)
  | .opening name parameters :: rest => shownFrom (⟨normalStyle name, parameters⟩ :: styles) rest
  | .closing name :: rest => do
    if trim name = [] then
      match styles with
      | [] => throw .nothingToClose
      | last :: others =>
        last.close
        shownFrom others rest
    else
      let style := normalStyle (trim name)
      match styles.find? (·.style == style) with
      | none => throw (.notOpen style)
      | some tag =>
        tag.close
        shownFrom (styles.eraseP (·.style == style)) rest

/-- Controls that never reach the terminal. -/
def isDropped (c : Char) : Bool :=
  c = '\x07' || c = '\x08' || c = '\x0b' || c = '\x0c' || c = '\r'

/-- What a line of markup shows on a plain terminal. -/
def plain (markup : String) : Except MarkupFault String := do
  let shown ← shownFrom [] (pieces markup.toList)
  return String.ofList (expandTabs 0 (shown.filter (!isDropped ·)))

end SpecLint.Report
