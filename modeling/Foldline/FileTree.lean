import Foldline.Path
import Foldline.Text.Quoted
import Foldline.Text.Utf8

/-! # File trees

A file tree says what stands at each place below the top: a file with its bytes, a directory, or a
link with the text it points to. `FileTree.find` walks along names the way the system does,
following links, and `Host.locate` does so for a written path.

Whoever looks may look everywhere: a tree has no permissions, and no walk fails for want of one. -/

namespace Foldline

/-- What stands at a place. -/
inductive Node where
  | file (bytes : List UInt8)
  | directory
  | link (target : List Char)
  deriving DecidableEq, Repr

/-- The names from the top down to a place. -/
abbrev Location := List Name

/-- A finite tree; the top itself is always a directory. -/
structure FileTree where
  entries : List (Location × Node) := []

def FileTree.node? (t : FileTree) (location : Location) : Option Node :=
  if location.isEmpty then some .directory else t.entries.lookup location

/-- Why the system refuses to walk or open a path, all permissions given. -/
inductive SystemFault where
  | notFound
  | notADirectory
  | isADirectory
  | nameTooLong
  | tooManyLinks
  deriving DecidableEq, Repr

namespace SystemFault

def number : SystemFault → Nat
  | .notFound => 2
  | .notADirectory => 20
  | .isADirectory => 21
  | .nameTooLong => 36
  | .tooManyLinks => 40

def text : SystemFault → String
  | .notFound => "No such file or directory"
  | .notADirectory => "Not a directory"
  | .isADirectory => "Is a directory"
  | .nameTooLong => "File name too long"
  | .tooManyLinks => "Too many levels of symbolic links"

end SystemFault

/-- A fault of the system with the path that was handed to it. -/
structure SystemError where
  fault : SystemFault
  path : List Char
  deriving DecidableEq, Repr

def SystemError.message (e : SystemError) : String :=
  s!"[Errno {e.fault.number}] {e.fault.text}: {Text.quote (String.ofList e.path)}"

/-- What a program can see of the machine it runs on. -/
structure Host where
  tree : FileTree
  /-- The current directory. -/
  current : Location
  /-- The home directory of the user as it is written, if one is known. -/
  home : Option (List Char) := none
  /-- The home directories of users by name. -/
  homes : List (List Char × List Char) := []
  /-- The limit on file sizes that the environment sets. -/
  sizeLimit : Option String := none
  /-- How many calls there is room for. It depends on the calls that are open already. -/
  calls : Nat := 980

namespace FileTree

/-- Where a walk along names ends: at a node, or at a link that has to be followed. -/
inductive Stop where
  | node (location : Location) (node : Node)
  | link (base : Location) (target : List Char) (rest : List Name)

/-- The longest name in bytes. -/
def maxNameSize : Nat := 255

/-- The longest path in bytes. -/
def maxPathSize : Nat := 4095

/-- The number of links that one walk follows. -/
def maxLinks : Nat := 40

/-- Walk along names up to the end or to the first link. A link at the very end is followed only
where `follow`. -/
def walk (t : FileTree) (follow : Bool) : Location → List Name → Except SystemFault Stop
  | place, [] =>
      match t.node? place with
      | some node => .ok (.node place node)
      | none => .error .notFound
  | place, name :: rest =>
      if t.node? place != some .directory then .error .notADirectory
      else if name == Path.dot then walk t follow place rest
      else if name == Path.dotDot then walk t follow place.dropLast rest
      else if maxNameSize < Text.Utf8.size name then .error .nameTooLong
      else
        match t.node? (place ++ [name]) with
        | none => .error .notFound
        | some (.link target) =>
            if rest.isEmpty && !follow then .ok (.node (place ++ [name]) (.link target))
            else .ok (.link place target rest)
        | some _ => walk t follow (place ++ [name]) rest

/-- Walk along names, following at most `links` links. -/
def find (t : FileTree) (follow onlyDirectory : Bool) :
    (links : Nat) → Location → List Name → Except SystemFault (Location × Node)
  | links, place, names =>
      match t.walk follow place names with
      | .error e => .error e
      | .ok (.node location node) =>
          if onlyDirectory && node != .directory then .error .notADirectory
          else .ok (location, node)
      | .ok (.link base target rest) =>
          match links with
          | 0 => .error .tooManyLinks
          | links + 1 =>
              let endsInSlash := rest.isEmpty && target.getLast? == some '/'
              find t (follow || endsInSlash) (onlyDirectory || endsInSlash) links
                (if target.head? == some '/' then [] else base) (Path.namesIn target ++ rest)

end FileTree

namespace Host

/-- Where a written path leads. A path that ends in a slash must lead to a directory. -/
def locate (h : Host) (follow : Bool) (path : List Char) :
    Except SystemFault (Location × Node) :=
  if path.isEmpty then .error .notFound
  else if FileTree.maxPathSize < Text.Utf8.size path then .error .nameTooLong
  else
    let endsInSlash := path.getLast? == some '/'
    h.tree.find (follow || endsInSlash) endsInSlash FileTree.maxLinks
      (if path.head? == some '/' then [] else h.current) (Path.namesIn path)

/-- What a path leads to, all links followed. -/
def target (h : Host) (path : List Char) : Except SystemFault Node :=
  (h.locate true path).map (·.2)

/-- What stands at a path, a link at its end not followed. -/
def entry (h : Host) (path : List Char) : Except SystemFault Node :=
  (h.locate false path).map (·.2)

/-- The bytes of the file that a path leads to. -/
def readBytes (h : Host) (path : List Char) : Except SystemFault (List UInt8) :=
  match h.target path with
  | .ok (.file bytes) => .ok bytes
  | .ok _ => .error .isADirectory
  | .error e => .error e

end Host

end Foldline
