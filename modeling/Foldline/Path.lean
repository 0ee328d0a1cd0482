import Foldline.Text.Pieces

/-! # Paths

A path is a root and the names below it. Empty names and single dots are dropped when a path is
read; double dots stay, because what they mean depends on links. -/

namespace Foldline

/-- The name of a file or directory. -/
abbrev Name := List Char

/-- Where a path starts: at the current directory or at the top, which can be written with one slash
or with exactly two. -/
inductive Path.Root where
  | here
  | top
  | doubleTop
  deriving DecidableEq, Repr

/-- A path as it is written. -/
structure Path where
  root : Path.Root
  names : List Name
  deriving DecidableEq, Repr

namespace Path

/-- The name that stands for the directory itself. -/
def dot : Name := ['.']

/-- The name that stands for the directory above. -/
def dotDot : Name := ['.', '.']

/-- The names in a text, without the empty ones. -/
def namesIn (text : List Char) : List Name := (Text.cutAt '/' text).filter (!·.isEmpty)

def rootOf : List Char → Root
  | '/' :: '/' :: '/' :: _ => .top
  | '/' :: '/' :: _ => .doubleTop
  | '/' :: _ => .top
  | _ => .here

def ofText (text : List Char) : Path :=
  { root := rootOf text, names := (namesIn text).filter (· != dot) }

/-- Names with slashes between them. -/
def joinNames (names : List Name) : List Char := ['/'].intercalate names

def text (p : Path) : List Char :=
  match p.root with
  | .here => if p.names.isEmpty then dot else joinNames p.names
  | .top => '/' :: joinNames p.names
  | .doubleTop => '/' :: '/' :: joinNames p.names

def toString (p : Path) : String := String.ofList p.text

/-- The path from the top along some names. -/
def absolute (names : List Name) : Path := { root := .top, names }

def isAbsolute (p : Path) : Bool := p.root != .here

def child (p : Path) (name : Name) : Path := { p with names := p.names ++ [name] }

/-- The path without its last name. -/
def parent (p : Path) : Path := { p with names := p.names.dropLast }

/-- The path and the ones above it, nearest first. -/
def ancestors (p : Path) : List Path :=
  (List.range (p.names.length + 1)).map fun up =>
    { p with names := p.names.take (p.names.length - up) }

def name (p : Path) : Name := p.names.getLast?.getD []

/-- The end of a name from its last dot on; a dot that is first or last in the name does not
count. -/
def suffixOf (name : Name) : List Char :=
  let tail := name.reverse.takeWhile (· != '.')
  if tail.isEmpty || name.length ≤ tail.length + 1 then []
  else '.' :: tail.reverse

/-- The suffix of the last name. -/
def suffix (p : Path) : List Char := suffixOf p.name

end Path

end Foldline
