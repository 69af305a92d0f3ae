import SpecLint.Text.CaseTables

/-!
# Letter case

Capitalising a word uses the full mappings: a title-cased first letter may become several
characters, and a capital sigma that ends a word takes its final form. Case-insensitive comparison
uses the simple lower-case mapping together with the fold partners.
-/
namespace SpecLint.Text

/-- The simple lower-case partner. -/
def lowerChar (c : Char) : Char := Char.ofNat (applyRuns lowerRuns c.toNat)

/-- The full lower case: one character, but for the dotted capital I. -/
def lowerFull (c : Char) : List Char := if c = 'İ' then ['i', '\u0307'] else [lowerChar c]

/-- The simple title-case partner of a code. -/
def titleCode (code : Nat) : Nat := applyRuns titleRuns code

/-- The full title case. -/
def titleFull (c : Char) : List Char :=
  match wideTitles.lookup c.toNat with
  | some codes => codes.map Char.ofNat
  | none => [Char.ofNat (titleCode c.toNat)]

def isCased (c : Char) : Bool := inRanges casedRanges c.toNat

def isCaseIgnorable (c : Char) : Bool := inRanges caseIgnorableRanges c.toNat

/-- Whether the nearest character that matters for case is a cased one. -/
def meetsCased (neighbours : List Char) : Bool :=
  match neighbours.dropWhile isCaseIgnorable with
  | [] => false
  | c :: _ => isCased c

/-- Lower-case `text`, where `before` holds the preceding characters, nearest first. -/
def lowerAfter (before : List Char) : List Char → List Char
  | [] => []
  | c :: rest =>
    let lowered :=
      if c = 'Σ' then
        if meetsCased before && !meetsCased rest then ['ς'] else ['σ']
      else lowerFull c
    lowered ++ lowerAfter (c :: before) rest

/-- Title-case the first character and lower-case the others. -/
def capitalize : List Char → List Char
  | [] => []
  | c :: rest => titleFull c ++ lowerAfter [c] rest

/-- Whether `c` matches `letter` when case is ignored. -/
def sameFold (letter c : Char) : Bool :=
  let low := (lowerChar letter).toNat
  let seen := (lowerChar c).toNat
  seen == low || ((foldPartners.lookup low).getD []).contains seen

theorem sameFold_refl (c : Char) : sameFold c c = true := by simp [sameFold]

/-- All code points whose simple lower case is `code`. -/
def lowerSources (code : Nat) : List Nat :=
  (if applyRuns lowerRuns code = code then [code] else []) ++
    lowerRuns.filterMap fun run =>
      let source := ((code : Int) - run.shift).toNat
      if run.covers source && applyRuns lowerRuns source == code then some source else none

/-- The code points that match `c` when case is ignored. -/
def foldSources (c : Char) : List Nat :=
  let low := (lowerChar c).toNat
  (low :: (foldPartners.lookup low).getD []).flatMap lowerSources

end SpecLint.Text
