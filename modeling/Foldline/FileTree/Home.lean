import Foldline.FileTree

/-! # Home directories

A relative path whose first name starts with a tilde starts at a home directory: the user's own for
the tilde alone, that of a named user otherwise. -/

namespace Foldline.Host

/-- The home directory that a user has, as it is written. The user of the program goes without a
name, and nobody has a name with a NUL in it. -/
def writtenHome? (h : Host) (user : List Char) : Option (List Char) :=
  if user.isEmpty then h.home else if user.contains '\x00' then none else h.homes.lookup user

/-- The path that a written home directory stands for. One with nothing but slashes in it is the
top, and one that starts with a tilde itself is as good as none. -/
def homePath? (written : List Char) : Option Path :=
  if written.all (· == '/') then some (.absolute [])
  else if written.head? == some '~' then none
  else some (.ofText written)

/-- The home directory that a name stands for, if it starts with a tilde. -/
def homeOf? (h : Host) : Name → Option Path
  | '~' :: user => (h.writtenHome? user).bind homePath?
  | _ => none

/-- A path with a leading tilde replaced; none if the home directory is not known. -/
def expandHome? (h : Host) (p : Path) : Option Path :=
  match p.root, p.names with
  | .here, first :: rest =>
      if first.head? == some '~' then
        (h.homeOf? first).map fun start => { start with names := start.names ++ rest }
      else some p
  | _, _ => some p

end Foldline.Host
