import SpecLint.Proofs.Spec.FocusedText
import SpecLint.Proofs.Spec.OutermostHeaders

/-!
# Spec trees up to focus

What is asked of a spec tree takes the focused and skipped forms of a word for the word itself, but
for the `describe` that names a constant. This one is asked for in the outer statements only, those
of the program and of its classes and modules. So of a tree only two forms matter. In both, every
word is focused and all locations are gone; in the outer one, a call that describes a constant among
the outer statements keeps its name.

## Main results

* `countContexts_form`: titles are looked for in the form of a tree.
* `declaresUnit_outerForm`, `countUnitContexts_outerForm`: units are looked for in its outer form.
-/
namespace SpecLint.Spec

open SpecLint.Code

/-- A word that has focused and skipped forms as its focused form. -/
def focusForm (name : String) : String :=
  (focusWords.find? fun word => (withFocus word).contains name).elim name ("f" ++ ·)

mutual
/-- A tree without locations, its calls named up to focus. -/
def form : Node → Node
  | .program body _ => .program (formAll body) none
  | .classDef name superclass body _ =>
    .classDef name (formOption superclass) (formAll body) none
  | .moduleDef name body _ => .moduleDef name (formAll body) none
  | .singletonClass target body _ => .singletonClass (form target) (formAll body) none
  | .methodDef name body _ => .methodDef name (formAll body) none
  | .singletonMethodDef receiver name body _ =>
    .singletonMethodDef (form receiver) name (formAll body) none
  | .block body _ => .block (formAll body) none
  | .call receiver name args attached _ =>
    .call (formOption receiver) (focusForm name) (formAll args) (formOption attached) none
  | .arm condition body _ => .arm (formOption condition) (formAll body) none
  | .conditional written arms orelse negated _ =>
    .conditional written (formAll arms) (formElse orelse) negated none
  | .caseOf subject arms orelse _ =>
    .caseOf (formOption subject) (formAll arms) (formElse orelse) none
  | .opAssign target operator value _ => .opAssign (form target) operator (form value) none
  | .assign target value _ => .assign (form target) (form value) none
  | .returned value _ => .returned (formOption value) none
  | .defined operand _ => .defined (form operand) none
  | .index receiver args _ => .index (form receiver) (formAll args) none
  | .instanceVar name _ => .instanceVar name none
  | .identifier name _ => .identifier (focusForm name) none
  | .selfRef _ => .selfRef none
  | .const name _ => .const name none
  | .symbol value _ => .symbol value none
  | .str value _ => .str value none
  | .other kind children _ => .other kind (formAll children) none

def formAll : List Node → List Node
  | [] => []
  | node :: rest => form node :: formAll rest

def formOption : Option Node → Option Node
  | none => none
  | some node => some (form node)

def formElse : Option (List Node) → Option (List Node)
  | none => none
  | some nodes => some (formAll nodes)
end

@[simp] theorem formAll_eq_map (nodes : List Node) : formAll nodes = nodes.map form := by
  induction nodes with
  | nil => simp [formAll]
  | cons node rest ih => simp [formAll, ih]

@[simp] theorem formOption_eq_map (node : Option Node) : formOption node = node.map form := by
  cases node <;> simp [formOption]

@[simp] theorem formElse_eq_map (nodes : Option (List Node)) :
    formElse nodes = nodes.map (·.map form) := by
  cases nodes <;> simp [formElse]

/-! ### Words -/

/-- All forms of the words. -/
def focusVariants : List String := focusWords.flatMap withFocus

theorem focusForm_of_not_mem {name : String} (other : name ∉ focusVariants) :
    focusForm name = name := by
  have none : (focusWords.find? fun word => (withFocus word).contains name) = Option.none := by
    rw [List.find?_eq_none]
    intro word member holds
    exact other (List.mem_flatMap.mpr ⟨word, member, List.contains_iff_mem.mp holds⟩)
  rw [focusForm, none]
  rfl

/-- What the forms of a word share is kept, and no form is the plain `describe`. -/
theorem focusForm_ne_describe (name : String) : focusForm name ≠ "describe" := by
  by_cases variant : name ∈ focusVariants
  · revert name
    decide
  · rw [focusForm_of_not_mem variant]
    rintro rfl
    exact variant (by decide)

theorem contains_focusForm {words : List String}
    (closed : ∀ name ∈ focusVariants, words.contains (focusForm name) = words.contains name)
    (name : String) : words.contains (focusForm name) = words.contains name := by
  by_cases variant : name ∈ focusVariants
  · exact closed name variant
  · rw [focusForm_of_not_mem variant]

/-! ### Questions about one node -/

@[simp] theorem children_form (node : Node) : (form node).children = node.children.map form := by
  have inElse (nodes : Option (List Node)) :
      (nodes.map (·.map form)).getD [] = (nodes.getD []).map form := by
    cases nodes <;> rfl
  cases node <;> simp [form, Node.children, inElse, Option.toList_map]

@[simp] theorem body_form (node : Node) : (form node).body = node.body.map form := by
  cases node with
  | call receiver name args attached loc =>
    cases attached with
    | none => rfl
    | some attached => cases attached <;> simp [form, Node.body]
  | _ => simp [form, Node.body]

theorem isRSpecReceiver_form (receiver : Option Node) :
    isRSpecReceiver (receiver.map form) = isRSpecReceiver receiver := by
  cases receiver with
  | none => rfl
  | some receiver => cases receiver <;> rfl

theorem callsOneOf_form {words : List String}
    (closed : ∀ name ∈ focusVariants, words.contains (focusForm name) = words.contains name)
    (node : Node) : callsOneOf words (form node) = callsOneOf words node := by
  cases node with
  | call receiver name args attached loc =>
    simp only [form, callsOneOf, formOption_eq_map, isRSpecReceiver_form, contains_focusForm closed]
  | _ => rfl

theorem closed_headerWords : ∀ name ∈ focusVariants,
    headerWords.contains (focusForm name) = headerWords.contains name := by decide

theorem closed_contextWords : ∀ name ∈ focusVariants,
    contextWords.contains (focusForm name) = contextWords.contains name := by decide

theorem closed_exampleCalls : ∀ name ∈ focusVariants,
    exampleCalls.contains (focusForm name) = exampleCalls.contains name := by decide

theorem title?_form (node : Node) : title? (form node) = title? node := by
  have words := callsOneOf_form closed_headerWords node
  cases node with
  | call receiver name args attached loc =>
    cases args with
    | nil => rfl
    | cons first rest =>
      cases first with
      | str title place =>
        simp only [form, formAll] at words
        simp only [form, formAll, title?, words]
      | _ => rfl
  | _ => rfl

theorem hasBlock_form (node : Node) : hasBlock (form node) = hasBlock node := by
  cases node with
  | call receiver name args attached loc => simp [form, hasBlock]
  | _ => rfl

theorem isHeaderTitled_form (titles : List String) (node : Node) :
    isHeaderTitled titles (form node) = isHeaderTitled titles node := by
  rw [isHeaderTitled, isHeaderTitled, hasBlock_form, title?_form]

/-! ### Headers with titles -/

theorem outermost_form {test : Node → Bool} (kept : ∀ node, test (form node) = test node)
    (node : Node) : outermost test (form node) = (outermost test node).map form := by
  induction node using Node.induction with
  | step node ih =>
    rw [outermost_eq, outermost_eq test node, kept, children_form]
    split
    · rfl
    · rw [List.flatMap_map, List.map_flatMap]
      simp only [List.flatMap_def]
      rw [List.map_congr_left ih]

/-- What is counted in a header is kept by whatever keeps the words of the statements below it. -/
theorem scenarioCount_of_body {header header' : Node} {change : Node → Node}
    (body : header'.body = header.body.map change)
    (contexts : ∀ node, callsOneOf contextWords (change node) = callsOneOf contextWords node)
    (examples : ∀ node, callsOneOf exampleCalls (change node) = callsOneOf exampleCalls node) :
    scenarioCount header' = scenarioCount header := by
  have contexts : callsOneOf contextWords ∘ change = callsOneOf contextWords := funext contexts
  have examples : callsOneOf exampleCalls ∘ change = callsOneOf exampleCalls := funext examples
  unfold scenarioCount
  rw [body, List.filter_map, List.any_map]
  simp only [contexts, examples, List.length_map]

theorem scenarioCount_form (header : Node) : scenarioCount (form header) = scenarioCount header :=
  scenarioCount_of_body (body_form header) (callsOneOf_form closed_contextWords)
    (callsOneOf_form closed_exampleCalls)

theorem scenarios_map {change : Node → Node}
    (kept : ∀ header, scenarioCount (change header) = scenarioCount header) (headers : List Node) :
    scenarios (headers.map change) = scenarios headers := by
  rw [scenarios, scenarios, List.map_map, List.isEmpty_map]
  have counts : scenarioCount ∘ change = scenarioCount := funext kept
  rw [counts]

/-- The scenarios under headers with titles are a matter of the form. -/
theorem countContexts_form (tree : Node) (titles : List String) :
    countContexts (form tree) titles = countContexts tree titles := by
  rw [countContexts, countContexts, findHeaders_eq_outermost, findHeaders_eq_outermost,
    outermost_form (isHeaderTitled_form titles), scenarios_map scenarioCount_form]

/-! ### Outer statements -/

/-- The name of a call up to focus, unless the call describes a constant. -/
def nameForm (receiver : Option Node) (name : String) (args : List Node) : String :=
  if (describedConstant? (.call receiver name args none none)).isSome then name else focusForm name

mutual
/-- The form of an outer statement. -/
def outerForm : Node → Node
  | .program body _ => .program (outerFormAll body) none
  | .classDef name superclass body _ =>
    .classDef name (superclass.map form) (outerFormAll body) none
  | .moduleDef name body _ => .moduleDef name (outerFormAll body) none
  | .call receiver name args attached _ =>
    .call (receiver.map form) (nameForm receiver name args) (args.map form) (attached.map form) none
  | node => form node

def outerFormAll : List Node → List Node
  | [] => []
  | node :: rest => outerForm node :: outerFormAll rest
end

@[simp] theorem outerFormAll_eq_map (nodes : List Node) :
    outerFormAll nodes = nodes.map outerForm := by
  induction nodes with
  | nil => simp [outerFormAll]
  | cons node rest ih => simp [outerFormAll, ih]

theorem describedConstant?_call (receiver : Option Node) (name : String) (args : List Node)
    (attached : Option Node) (loc : Option Location) :
    describedConstant? (.call receiver name args attached loc) =
      describedConstant? (.call receiver name args none none) := by
  cases args with
  | nil => rfl
  | cons first rest => cases first <;> rfl

theorem describedConstant?_of_ne {name : String} (other : name ≠ "describe")
    (receiver : Option Node) (args : List Node) :
    describedConstant? (.call receiver name args none none) = none := by
  cases args with
  | nil => rfl
  | cons first rest =>
    cases first with
    | const constant place => exact if_neg fun describes => other describes.1
    | _ => rfl

/-- Which constant a call describes is a matter of its name and the forms of its parts. -/
theorem describedConstant?_parts (receiver : Option Node) (name : String) (args : List Node) :
    describedConstant? (.call (receiver.map form) name (args.map form) none none) =
      describedConstant? (.call receiver name args none none) := by
  cases args with
  | nil => rfl
  | cons first rest =>
    cases first with
    | const constant place =>
      show (if name = "describe" ∧ isRSpecReceiver (receiver.map form) then some constant
          else none) =
        if name = "describe" ∧ isRSpecReceiver receiver then some constant else none
      rw [isRSpecReceiver_form]
    | _ => rfl

/-- A call describes a constant under the name of its form if it does under its own. -/
@[simp] theorem describedConstant?_outerForm (node : Node) :
    describedConstant? (outerForm node) = describedConstant? node := by
  cases node with
  | call receiver name args attached loc =>
    rw [describedConstant?_call, outerForm, describedConstant?_call, describedConstant?_parts,
      nameForm]
    split
    · rfl
    next plain =>
      rw [describedConstant?_of_ne (focusForm_ne_describe name)]
      exact (Option.not_isSome_iff_eq_none.mp plain).symm
  | _ => rfl

theorem nameForm_congr {receiver receiver' : Option Node} {args args' : List Node}
    (sameReceiver : receiver'.map form = receiver.map form)
    (sameArgs : args'.map form = args.map form) (name : String) :
    nameForm receiver' name args' = nameForm receiver name args := by
  rw [nameForm, nameForm, ← describedConstant?_parts, sameReceiver, sameArgs,
    describedConstant?_parts]

theorem nameForm_of_none {receiver : Option Node} {name : String} {args : List Node}
    (plain : describedConstant? (.call receiver name args none none) = none) :
    nameForm receiver name args = focusForm name := by
  rw [nameForm, plain]
  rfl

theorem contains_nameForm {words : List String}
    (closed : ∀ name ∈ focusVariants, words.contains (focusForm name) = words.contains name)
    (receiver : Option Node) (name : String) (args : List Node) :
    words.contains (nameForm receiver name args) = words.contains name := by
  unfold nameForm
  split
  · rfl
  · exact contains_focusForm closed name

theorem callsOneOf_outerForm {words : List String}
    (closed : ∀ name ∈ focusVariants, words.contains (focusForm name) = words.contains name)
    (node : Node) : callsOneOf words (outerForm node) = callsOneOf words node := by
  cases node with
  | call receiver name args attached loc =>
    simp only [outerForm, callsOneOf, isRSpecReceiver_form, contains_nameForm closed]
  | _ => rfl

theorem wrapper?_outerForm (node : Node) : wrapper? (outerForm node) = wrapper? node := by
  cases node <;> rfl

theorem hasBlock_outerForm (node : Node) : hasBlock (outerForm node) = hasBlock node := by
  cases node with
  | call receiver name args attached loc => simp [outerForm, hasBlock]
  | _ => rfl

/-- The statements of an outer statement are outer ones, unless they stand in the block of a call or
in a routine. -/
theorem exists_body_outerForm (node : Node) : ∃ change, (change = form ∨ change = outerForm) ∧
    (outerForm node).body = node.body.map change := by
  cases node with
  | program body loc => exact ⟨outerForm, .inr rfl, outerFormAll_eq_map body⟩
  | classDef name superclass body loc => exact ⟨outerForm, .inr rfl, outerFormAll_eq_map body⟩
  | moduleDef name body loc => exact ⟨outerForm, .inr rfl, outerFormAll_eq_map body⟩
  | call receiver name args attached loc =>
    refine ⟨form, .inl rfl, ?_⟩
    cases attached with
    | none => rfl
    | some attached => cases attached <;> simp [outerForm, form, Node.body]
  | _ => exact ⟨form, .inl rfl, body_form _⟩

theorem scenarioCount_outerForm (header : Node) :
    scenarioCount (outerForm header) = scenarioCount header := by
  obtain ⟨change, rfl | rfl, body⟩ := exists_body_outerForm header
  · exact scenarioCount_of_body body (callsOneOf_form closed_contextWords)
      (callsOneOf_form closed_exampleCalls)
  · exact scenarioCount_of_body body (callsOneOf_outerForm closed_contextWords)
      (callsOneOf_outerForm closed_exampleCalls)

/-! ### Headers of units -/

theorem unitHeadersIn_outerForm (name : List Char) (statement : Node) :
    unitHeadersIn name (outerForm statement) = (unitHeadersIn name statement).map outerForm := by
  rw [unitHeadersIn_eq, unitHeadersIn_eq name statement, describedConstant?_outerForm,
    wrapper?_outerForm]
  split
  · rfl
  · cases wraps : wrapper? statement with
    | none => rfl
    | some opening =>
      have body : (outerForm statement).body = statement.body.map outerForm := by
        cases statement with
        | classDef name superclass body loc => exact outerFormAll_eq_map body
        | moduleDef name body loc => exact outerFormAll_eq_map body
        | _ => cases wraps
      simp only [body]
      split
      · -- the search goes on in the body of a wrapper
        have inner : ∀ node ∈ statement.body,
            unitHeadersIn (name.drop opening.length) (outerForm node) =
              (unitHeadersIn (name.drop opening.length) node).map outerForm :=
          fun node member => unitHeadersIn_outerForm _ node
        rw [List.flatMap_map, List.map_flatMap]
        simp only [List.flatMap_def]
        rw [List.map_congr_left inner]
      · rfl
termination_by sizeOf statement
decreasing_by exact sizeOf_lt_of_mem_body member

theorem unitHeaders_outerForm (body : List Node) (loc : Option Location) (name : String) :
    unitHeaders (outerForm (.program body loc)) name =
      (unitHeaders (.program body loc) name).map outerForm := by
  simp only [unitHeaders, outerForm, outerFormAll_eq_map, Node.body, List.flatMap_map,
    List.map_flatMap, unitHeadersIn_outerForm]

/-- Whether a spec describes a unit is a matter of its outer form. -/
theorem declaresUnit_outerForm (body : List Node) (loc : Option Location) (name : String) :
    declaresUnit (outerForm (.program body loc)) name =
      declaresUnit (.program body loc) name := by
  rw [declaresUnit, declaresUnit, unitHeaders_outerForm, List.isEmpty_map]

/-- The scenarios under the headers of a unit are a matter of the outer form. -/
theorem countUnitContexts_outerForm (body : List Node) (loc : Option Location) (name : String) :
    countUnitContexts (outerForm (.program body loc)) name =
      countUnitContexts (.program body loc) name := by
  rw [countUnitContexts, countUnitContexts, unitHeaders_outerForm, List.filter_map]
  have blocks : hasBlock ∘ outerForm = hasBlock := funext hasBlock_outerForm
  rw [blocks, scenarios_map scenarioCount_outerForm]

end SpecLint.Spec
