import SpecLint.Path.Basic

/-!
# Home directories

A path that starts with a tilde starts in a home directory: in one's own where the tilde stands
alone, in that of the user whose name follows it otherwise.
-/
namespace SpecLint

/-- The users whom every system knows. -/
def usualUsers : List (String × String) := [
  ("root", "/root"), ("daemon", "/usr/sbin"), ("bin", "/bin"), ("sys", "/dev"), ("sync", "/bin"),
  ("games", "/usr/games"), ("man", "/var/cache/man"), ("lp", "/var/spool/lpd"),
  ("mail", "/var/mail"), ("news", "/var/spool/news"), ("uucp", "/var/spool/uucp"),
  ("proxy", "/bin"), ("www-data", "/var/www"), ("backup", "/var/backups"), ("list", "/var/list"),
  ("irc", "/run/ircd"), ("nobody", "/nonexistent")]

/-- The home directories of a system. -/
structure Homes where
  /-- One's own. -/
  own : String
  /-- Those of users by name. -/
  users : List (String × String) := usualUsers

/-- Why a path has no home directory to start in. -/
inductive HomeFault where
  | unknownUser
  /-- No name of a user holds a NUL. -/
  | nulInName
  deriving DecidableEq, Repr

namespace Homes

/-- The home directory of a user; one's own for the empty name. -/
def directory (homes : Homes) (name : String) : Except HomeFault Path :=
  if name = "" then .ok (Path.ofString homes.own)
  else if name.toList.contains '\x00' then .error .nulInName
  else match homes.users.lookup name with
    | some written => .ok (Path.ofString written)
    | none => .error .unknownUser

/-- A path from its home directory on, if it starts in one. -/
def expand (homes : Homes) (path : Path) : Except HomeFault Path :=
  match path.root, path.segments with
  | "", first :: rest => match first.toList with
    | '~' :: name => do return (← homes.directory (String.ofList name)) / ⟨"", rest⟩
    | _ => .ok path
  | _, _ => .ok path

end Homes

end SpecLint
