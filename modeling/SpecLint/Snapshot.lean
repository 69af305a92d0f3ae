import SpecLint.Check.Context
import SpecLint.Code.Exchange
import SpecLint.Text.Base64

/-!
# Snapshots

A snapshot is a project handed over as data: the files below the working directory, each with the
concrete tree of its content, so that no grammar has to be at hand. Trees belong to contents and not
to paths. A content whose tree is not known counts as an empty program.
-/
namespace SpecLint

open SpecLint.Code SpecLint.Data

structure Snapshot where
  disk : Disk
  /-- The trees of contents. -/
  trees : List (ByteArray × Concrete)

namespace Snapshot

/-- The bytes of a file: its text in UTF-8, or bytes written in Base64. -/
def contentOf (file : Entries) : ByteArray :=
  match Entries.getText? file "b64", Entries.getText? file "text" with
  | some (.scalar (.text written)), _ => ⟨((Text.Base64.read? written.toList).getD []).toArray⟩
  | _, some (.scalar (.text written)) => written.toUTF8
  | _, _ => ⟨#[]⟩

/-- A content as the analyses read it: invalid bytes replaced and line ends unified. -/
def asRead (content : ByteArray) : ByteArray :=
  (String.ofList (Text.unifyLines (Text.decode content).toList)).toUTF8

/-- The trees that come with a file: of its content, and of the content as read if that differs. -/
def treesOf (file : Entries) : List (ByteArray × Concrete) :=
  let content := contentOf file
  let tree (name : String) (bytes : ByteArray) : Option (ByteArray × Concrete) :=
    (Entries.getText? file name >>= Concrete.ofValue?).map fun tree => (bytes, tree)
  (tree "cst" content).toList ++ (tree "cst_text" (asRead content)).toList

/-- Nothing but a working directory. -/
def empty (here : List String) : Snapshot := ⟨Disk.empty here, []⟩

/-- Write a file; anything that is no file stands for a directory. -/
def write (snapshot : Snapshot) (path : Path) (file : Value) : Snapshot :=
  match file with
  | .map file =>
    ⟨snapshot.disk.write path (.file (contentOf file)), snapshot.trees ++ treesOf file⟩
  | _ => { snapshot with disk := snapshot.disk.write path .directory }

def delete (snapshot : Snapshot) (path : Path) : Snapshot :=
  { snapshot with disk := snapshot.disk.delete path }

/-- Files by path. -/
def ofFiles (here : List String) (files : Entries) : Snapshot :=
  files.foldl (fun snapshot (name, file) =>
    snapshot.write (Path.ofString (Value.scalar name).rendered) file) (empty here)

/-- The grammar that knows these trees. -/
def grammarOf (trees : List (ByteArray × Concrete)) : Grammar := fun bytes =>
  match trees.find? fun entry => entry.1.data == bytes.data with
  | some (_, tree) => tree
  | none => .empty

def grammar (snapshot : Snapshot) : Grammar := grammarOf snapshot.trees

def installation (snapshot : Snapshot) : Installation := .available snapshot.grammar

def project (snapshot : Snapshot) : Spec.Project := ⟨snapshot.disk, snapshot.grammar⟩

end Snapshot

end SpecLint
