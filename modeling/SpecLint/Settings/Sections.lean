import SpecLint.Check.Kind
import SpecLint.Data.Merge

/-!
# Sections and check ids

A configuration file may hold the options of a check under the id of the check as well as under the
name of its section. Entries under an id move to the section; what both set is merged in the order
of the file, so the later entry wins option by option.
-/
namespace SpecLint.Settings

open SpecLint.Data SpecLint.Check

/-- The section that a key of the configuration stands for. -/
def sectionKey (key : Scalar) : Scalar :=
  match CheckKind.all.find? fun kind => Scalar.text kind.id = key with
  | some kind => .text kind.section
  | none => key

/-- Write an entry under its section: a mapping is merged into what the section already holds,
anything else replaces it. -/
def putSection (links : List Link) (sections : Entries) (key : Scalar) (value : Value) :
    Except MergeFailure Entries :=
  let name := sectionKey key
  match Entries.get? sections name, value.isMap with
  | some present, true =>
    (mergeUnder links present value).map fun merged => Entries.put name merged sections
  | _, _ => .ok (Entries.put name value sections)

/-- Entries under their sections, one after the other. -/
def putSections (links : List Link) (sections : Entries) (entries : Entries) :
    Except MergeFailure Entries :=
  entries.foldlM (fun sections entry => putSection links sections entry.1 entry.2) sections

/-- All entries under their sections. -/
def normalizeSections (entries : Entries) : Except MergeFailure Entries :=
  putSections (linksOfEntries entries).eraseDups [] entries

theorem sectionKey_id (kind : CheckKind) : sectionKey (.text kind.id) = .text kind.section := by
  cases kind <;> decide

/-- Names of sections stand for themselves. -/
theorem sectionKey_section (kind : CheckKind) :
    sectionKey (.text kind.section) = .text kind.section := by
  cases kind <;> decide

theorem sectionKey_idempotent (key : Scalar) : sectionKey (sectionKey key) = sectionKey key := by
  cases found : CheckKind.all.find? fun kind => Scalar.text kind.id = key with
  | none => simp only [sectionKey, found]
  | some kind =>
    have moved : sectionKey key = .text kind.section := by simp only [sectionKey, found]
    rw [moved, sectionKey_section]

theorem putSection_new {links : List Link} {sections : Entries} {key : Scalar} {value : Value}
    (new : Entries.get? sections (sectionKey key) = none) :
    putSection links sections key value = .ok (Entries.put (sectionKey key) value sections) := by
  simp [putSection, new]

end SpecLint.Settings
