import SpecLint.Proofs.Check.Agreement
import SpecLint.Proofs.Spec.FocusedText
import SpecLint.Proofs.Spec.UnitScenarios

/-!
# Examples in trees and in texts

The examples directly under the headers of a unit are counted in the trees of its spec files, but
whether the unit has an example at all is decided by the lines of their texts. Every example that is
counted is a call whose word stands in the text. It is found there as well if it opens its line,
with one of the words `it`, `example` and `specify`. An example on the line of its header is not, nor
one with another word.

## Main result

`examples_of_calls`: each example that is counted has its place in the text, and a unit with a
header has examples as soon as a line of that text opens with an example, this one or another.
-/
namespace SpecLint

open SpecLint.Code SpecLint.Spec SpecLint.Text
open SpecLint.Code.Concrete (construct token)

/-! ### Statements in the tree -/

namespace Code.Node

theorem mem_walk_trans {outer inner node : Node} (above : outer ∈ node.walk)
    (inside : inner ∈ outer.walk) : inner ∈ node.walk := by
  induction node using Node.induction with
  | step node ih =>
    rw [walk_eq, List.mem_cons, List.mem_flatMap] at above
    rcases above with rfl | ⟨child, isChild, below⟩
    · exact inside
    · exact walk_subset isChild _ (ih child isChild below)

theorem mem_walk_of_mem_children {child node : Node} (isChild : child ∈ node.children) :
    child ∈ node.walk :=
  walk_subset isChild _ (mem_walk_self child)

theorem mem_children_of_mem_body {statement node : Node} (noCall : isCall node = false)
    (member : statement ∈ node.body) : statement ∈ node.children := by
  cases node <;> simp_all [body, children, isCall]

theorem mem_walk_of_mem_body {statement node : Node} (member : statement ∈ node.body) :
    statement ∈ node.walk := by
  cases called : isCall node with
  | false => exact mem_walk_of_mem_children (mem_children_of_mem_body called member)
  | true =>
    cases node with
    | call receiver name args attached loc =>
      cases attached with
      | none => cases member
      | some attached =>
        cases attached with
        | block inner blockLoc =>
          -- the statements of a call are those of its block
          have inBlock : statement ∈ (Node.block inner blockLoc).walk :=
            mem_walk_of_mem_children member
          exact mem_walk_trans (mem_walk_of_mem_children (by simp [children])) inBlock
        | _ => cases member
    | _ => cases called

end Code.Node

/-- The headers of a unit stand in the statements of the spec. -/
theorem Spec.mem_walk_of_mem_unitHeadersIn {name : List Char} {statement header : Node}
    (member : header ∈ unitHeadersIn name statement) : header ∈ statement.walk := by
  induction statement using Node.induction generalizing name with
  | step statement ih =>
    rw [unitHeadersIn_eq] at member
    split at member
    · rw [List.mem_singleton.mp member]
      exact Node.mem_walk_self statement
    · split at member
      · cases member
      next opening wraps =>
        split at member
        · obtain ⟨inner, inBody, below⟩ := List.mem_flatMap.mp member
          -- a wrapper is no call, so that its statements are children of it
          have noCall : isCall statement = false := by
            cases statement <;> first | rfl | cases wraps
          have isChild := Node.mem_children_of_mem_body noCall inBody
          exact Node.walk_subset isChild _ (ih inner isChild below)
        · cases member

namespace Check

/-! ### Examples with their places -/

/-- The token that names a call of a tree: the method of a call, or a bare name. -/
inductive NamedBy (source : Source) (top name : Concrete) : Node → Prop where
  | method {call : Concrete} (inside : Inside top call) (isCall : call.kind = "call")
      (isName : call.children.find? (·.field == some "method") = some name) :
      NamedBy source top name (callFrom source call (readAll source call.children))
  | bare (inside : Inside top name) (isIdentifier : name.kind = "identifier") :
      NamedBy source top name (.call none (textOf source name) [] none (locationOf source name))

/-- A call directly under a header of a unit that counts as an example, with the place of its word
in the text of the spec file. -/
structure ExampleCall (project : Project) (path : Path) (unit : String) where
  header : Node
  statement : Node
  isHeader : header ∈ unitHeaders (project.specParsed path).root unit
  hasBlock : hasBlock header = true
  direct : statement ∈ header.body
  counts : callsOneOf exampleCalls statement = true
  /-- The token that names the call. -/
  name : Concrete
  word : String
  named : NamedBy (Source.ofBytes (project.specText path).toUTF8)
    (project.grammar (project.specText path).toUTF8) name statement
  reads : textOf (Source.ofBytes (project.specText path).toUTF8) name = word
  isExample : word ∈ exampleCalls
  /-- The text before the word. -/
  front : List Char
  /-- The text behind the word. -/
  tail : List Char
  stands : (project.specText path).toList = front ++ word.toList ++ tail
  offset : (String.ofList front).utf8ByteSize = name.start

variable {project : Project} {path : Path} {unit : String}

/-- The call opens its line, with one of the words of example lines. -/
def ExampleCall.Plain (call : ExampleCall project path unit) : Prop :=
  call.word.toList ∈ exampleWords ∧ OpensLine call.front ∧ call.tail.head?.any isWord = false

theorem exists_namedBy {source : Source} {top : Concrete} {node : Node}
    (member : node ∈ (programOf source top).walk) (counts : callsOneOf exampleCalls node = true) :
    ∃ name, NamedBy source top name node ∧ textOf source name ∈ exampleCalls := by
  obtain ⟨receiver, word, args, attached, loc, rfl⟩ :
      ∃ receiver word args attached loc, node = .call receiver word args attached loc := by
    cases node <;> first | exact ⟨_, _, _, _, _, rfl⟩ | cases counts
  simp only [callsOneOf, Bool.and_eq_true, List.contains_iff_mem] at counts
  -- a bare name is its own token, any other call names its method by one
  rcases origin_of_call member rfl with ⟨call, inside, isCall, made⟩ | ⟨name, inside, isName, made⟩
  · have noExample : "call" ∉ exampleCalls := by decide
    obtain ⟨name, isName, isText⟩ := exists_name_of_callFrom made.symm
      (ne_of_mem_of_not_mem counts.1 noExample)
    rw [made]
    exact ⟨name, .method inside isCall isName, isText ▸ counts.1⟩
  · rw [made]
    obtain ⟨-, rfl, -⟩ := Node.call.inj made
    exact ⟨name, .bare inside isName, counts.1⟩

/-- Every example that is counted has its place in the text. -/
theorem exists_exampleCall {header statement : Node}
    (isHeader : header ∈ unitHeaders (project.specParsed path).root unit)
    (hasBlock : hasBlock header = true) (direct : statement ∈ header.body)
    (counts : callsOneOf exampleCalls statement = true) :
    ∃ call : ExampleCall project path unit, call.header = header ∧ call.statement = statement := by
  obtain ⟨outer, inBody, inOuter⟩ := List.mem_flatMap.mp isHeader
  -- the header stands in a statement of the spec, and the example in the header
  have member : statement ∈ (project.specParsed path).root.walk :=
    Node.mem_walk_trans (Node.mem_walk_of_mem_body inBody) <|
      Node.mem_walk_trans (mem_walk_of_mem_unitHeadersIn inOuter) <|
        Node.mem_walk_of_mem_body direct
  obtain ⟨name, named, isExample⟩ := exists_namedBy member counts
  have words : ∀ word ∈ exampleCalls, word.toList.all isPlain = true ∧ word.toList ≠ [] := by
    decide +kernel
  obtain ⟨plain, nonempty⟩ := words _ isExample
  -- the offsets of the word cut it out of the text
  obtain ⟨front, tail, stands, offset⟩ := exists_append_of_decode (List.all_eq_true.mp plain)
    nonempty String.ofList_toList.symm
  exact ⟨{ header, statement, isHeader, hasBlock, direct, counts, name, word := _, named,
           reads := rfl, isExample, front, tail, stands, offset }, rfl, rfl⟩

/-! ### From calls to example lines -/

variable {paths : List Path}

theorem ExampleCall.exampleLine {call : ExampleCall project path unit} (plain : call.Plain) :
    ExampleLine call.front (call.word.toList ++ call.tail) := by
  obtain ⟨isPlainWord, opens, ends⟩ := plain
  exact ⟨opens, startsExample_iff.mpr ⟨call.word.toList, isPlainWord, call.tail, rfl, ends⟩⟩

/-- A spec file that has an example line and describes a unit shows that the unit has examples. -/
theorem exemplifies_of_exampleLine {before rest : List Char}
    (declares : unitHeaders (project.specParsed path).root unit ≠ [])
    (split : (project.specText path).toList = before ++ rest) (line : ExampleLine before rest) :
    project.exemplifies unit path = true := by
  have hasLine : hasExample (project.specText path).toList = true :=
    hasExample_iff.mpr ⟨before, rest, split, line⟩
  have named : declaresUnit (project.specParsed path).root unit = true :=
    declaresUnit_iff.mpr declares
  simp only [Project.exemplifies, hasLine, named, Bool.true_or, Bool.and_self]

theorem ExampleCall.exemplifies {call : ExampleCall project path unit} (plain : call.Plain) :
    project.exemplifies unit path = true := by
  refine exemplifies_of_exampleLine (List.ne_nil_of_mem call.isHeader) ?_
    (call.exampleLine plain)
  rw [call.stands, List.append_assoc]

/-- Each example that is counted under a header of a unit is a call with a place in the text of its
spec file. A unit with a header in a spec file has examples if some line of that text opens with
one; so it has if a call that is counted opens its line with one of the words of examples, and then
none of its routines that needs no header of its own is reported. -/
theorem examples_of_calls {cache : Cache} (recalls : cache.Recalls project) :
    (∀ path ∈ paths, ∀ header ∈ unitHeaders (project.specParsed path).root unit,
      Spec.hasBlock header = true → ∀ statement ∈ header.body,
        callsOneOf exampleCalls statement = true →
          ∃ call : ExampleCall project path unit,
            call.header = header ∧ call.statement = statement) ∧
    (∀ path ∈ paths, unitHeaders (project.specParsed path).root unit ≠ [] →
      ∀ before rest, (project.specText path).toList = before ++ rest → ExampleLine before rest →
        (hasExamplesForUnit project unit paths cache).1 = true) ∧
    ∀ path ∈ paths, ∀ call : ExampleCall project path unit, call.Plain →
      (hasExamplesForUnit project unit paths cache).1 = true ∧
        ∀ context subject, context.project = project → subject.candidates.paths = paths →
          subject.unit.name = unit →
            objection context true subject .publicMethodHasSpec = none := by
  have answer : (hasExamplesForUnit project unit paths cache).1 =
      paths.any (project.exemplifies unit) :=
    (answers_hasExamplesForUnit unit paths cache recalls).1
  rw [answer]
  refine ⟨?_, ?_, ?_⟩
  · intro path _ header isHeader hasBlock statement direct counts
    exact exists_exampleCall isHeader hasBlock direct counts
  · intro path inPaths declares before rest split line
    exact List.any_eq_true.mpr ⟨path, inPaths, exemplifies_of_exampleLine declares split line⟩
  · intro path inPaths call plain
    have examples : paths.any (project.exemplifies unit) = true :=
      List.any_eq_true.mpr ⟨path, inPaths, call.exemplifies plain⟩
    refine ⟨examples, ?_⟩
    rintro context subject rfl rfl rfl
    have isDocumented : documented context true subject
        context.settings.publicMethodHasSpec.aliases = true := examples
    simp only [objection, isDocumented, if_true]

/-! ### Examples that lines do not show, and one that they do -/

def userSpecPath : Path := ⟨"", ["spec", "user_spec.rb"]⟩

/-- The tree of an example titled `'works'`, from where its word starts, with the length of that
word, to where it ends. -/
def titledExample (start length stop : Nat) : Concrete :=
  let title := start + length + 1
  construct "call" start stop none
    [construct "identifier" start (start + length) (some "method") [],
      construct "argument_list" title (title + 7) (some "arguments")
        [construct "string" title (title + 7) none
          [token "'" title (title + 1), construct "string_content" (title + 1) (title + 6) none [],
            token "'" (title + 6) (title + 7)]],
      construct "do_block" (title + 8) stop (some "block")
        [token "do" (title + 8) (title + 10), token "end" (stop - 3) stop]]

/-- A project with one spec file, which describes `User` up to `stop` by one example. -/
def describedUser (spec : String) (stop : Nat) (sample : Concrete) : Project where
  disk := ⟨[], [(["spec"], .directory), (["spec", "user_spec.rb"], .file spec.toUTF8)]⟩
  grammar := fun _ => construct "program" 0 (stop + 1) none
    [construct "call" 0 stop none
      [construct "constant" 0 5 (some "receiver") [],
        .node "." false false 5 6 (some "operator") [],
        construct "identifier" 6 14 (some "method") [],
        construct "argument_list" 15 19 (some "arguments") [construct "constant" 15 19 none []],
        construct "do_block" 20 stop (some "block")
          [token "do" 20 22,
            construct "body_statement" sample.start sample.stop (some "body") [sample],
            token "end" (stop - 3) stop]]]

def oneLineProject : Project :=
  describedUser "RSpec.describe User do it 'works' do end end\n" 44 (titledExample 23 2 40)

def scenarioProject : Project :=
  describedUser "RSpec.describe User do\n  scenario 'works' do\n  end\nend\n" 54
    (titledExample 25 8 50)

/-- An example is counted in the tree but not seen in the text if it stands on the line of its
header, and also if it opens its line with another word. -/
theorem counted_example_is_not_seen :
    (((unitHeaders (oneLineProject.specParsed userSpecPath).root "User").any fun header =>
        Spec.hasBlock header && header.body.any (callsOneOf exampleCalls)) = true ∧
      (unitContextTotal oneLineProject [userSpecPath] "User" .empty).1 = some 1 ∧
      (hasExamplesForUnit oneLineProject "User" [userSpecPath] .empty).1 = false) ∧
    ((unitHeaders (scenarioProject.specParsed userSpecPath).root "User").any fun header =>
        Spec.hasBlock header && header.body.any (callsOneOf exampleCalls)) = true ∧
      (unitContextTotal scenarioProject [userSpecPath] "User" .empty).1 = some 1 ∧
      (hasExamplesForUnit scenarioProject "User" [userSpecPath] .empty).1 = false := by
  refine ⟨⟨?_, ?_, ?_⟩, ?_, ?_, ?_⟩ <;> decide +kernel

theorem exampleCall_of_shortSpec (call : ExampleCall twoNamesProject shortSpecPath "Creator") :
    call.front = "RSpec.describe Creator do\n  ".toList ∧ call.word = "it" ∧
      call.tail = " 'works' do\n  end\nend\n".toList := by
  have text : twoNamesProject.specText shortSpecPath = shortSpec := by decide +kernel
  have alone : ∀ word ∈ exampleCalls, ∀ before < shortSpec.toList.length + 1,
      word.toList.isPrefixOf (shortSpec.toList.drop before) = true →
        before = 28 ∧ word = "it" := by
    decide +kernel
  have stands := call.stands
  rw [text] at stands
  obtain ⟨inText, here⟩ := isPrefixOf_drop stands
  obtain ⟨place, isWord⟩ := alone _ call.isExample _ inText here
  have split : shortSpec.toList = "RSpec.describe Creator do\n  ".toList ++
      ("it".toList ++ " 'works' do\n  end\nend\n".toList) := by
    decide +kernel
  rw [isWord, List.append_assoc] at stands
  obtain ⟨front, rest⟩ := List.append_inj (stands.symm.trans split) place
  exact ⟨front, isWord, List.append_cancel_left rest⟩

/-- The example on the line behind its header is seen in the text. -/
theorem examples_of_calls_creator :
    Cache.empty.Recalls twoNamesProject ∧
      (∃ call : ExampleCall twoNamesProject shortSpecPath "Creator", call.Plain) ∧
      (hasExamplesForUnit twoNamesProject "Creator" [shortSpecPath] .empty).1 = true := by
  have recalls := Cache.recalls_empty twoNamesProject
  obtain ⟨places, -, seen⟩ :=
    @examples_of_calls twoNamesProject "Creator" [shortSpecPath] .empty recalls
  have described : ((unitHeaders (twoNamesProject.specParsed shortSpecPath).root "Creator").any
      fun header => Spec.hasBlock header && header.body.any (callsOneOf exampleCalls)) = true := by
    decide +kernel
  obtain ⟨header, isHeader, counted⟩ := List.any_eq_true.mp described
  obtain ⟨hasBlock, hasExample⟩ := Bool.and_eq_true_iff.mp counted
  obtain ⟨statement, direct, counts⟩ := List.any_eq_true.mp hasExample
  obtain ⟨call, -, -⟩ := places shortSpecPath (List.mem_singleton.mpr rfl) header isHeader hasBlock
    statement direct counts
  have plain : call.Plain := by
    obtain ⟨front, word, tail⟩ := exampleCall_of_shortSpec call
    refine ⟨?_, ⟨"RSpec.describe Creator do\n".toList, "  ".toList, ?_, ?_, ?_⟩, ?_⟩
    · rw [word]
      decide
    · rw [front]
      decide +kernel
    · decide +kernel
    · exact List.all_eq_true.mp (by decide +kernel)
    · rw [tail]
      decide +kernel
  obtain ⟨found, -⟩ := seen shortSpecPath (List.mem_singleton.mpr rfl) call plain
  exact ⟨recalls, ⟨call, plain⟩, found⟩

end Check

end SpecLint
