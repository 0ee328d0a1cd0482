import Foldline.Config.Assign
import Foldline.Config.Check
import Foldline.FileTree.Resolve
import Foldline.Toml.Reader

/-! # Looking for settings files

Settings are looked for in the directory of the source and the directories above it. In each
directory two files can hold them, in three tables altogether. The first table that exists decides;
a file that cannot be opened or is not TOML is passed over. -/

namespace Foldline.Config

/-- Why no settings come out of a search. -/
inductive SearchError where
  | nulByte
  | linkLoop (path : List Char)
  | tooDeep
  | unreachable (e : SystemError)
  | encoding (fault : Text.Utf8.Fault)
  | tooManyDigits (count : Nat)
  | refused (e : Error)
  | patternLimit (e : Pattern.Error)
  | badName (e : NameError)
  deriving DecidableEq, Repr

def SearchError.message : SearchError → String
  | .nulByte => "embedded null byte"
  | .linkLoop path => s!"Symlink loop from {Text.quote (String.ofList path)}"
  | .tooDeep => Pattern.Error.tooDeep.message
  | .unreachable e => e.message
  | .encoding fault => fault.message
  | .tooManyDigits count => (Pattern.Error.tooManyDigits count).message
  | .refused e => e.message
  | .patternLimit e => e.message
  | .badName e => e.message

def SearchError.ofResolve : Resolve.Fault → SearchError
  | .nulByte => .nulByte
  | .linkLoop path => .linkLoop path
  | .tooDeep => .tooDeep
  | .system e => .unreachable e

def SearchError.ofCheck : Fault → SearchError
  | .refused e => .refused e
  | .limit e => .patternLimit e

/-- A name of a settings file, with the tables that can hold settings in it, in order. -/
structure Place where
  name : Name
  tables : List (List String)

/-- The settings files of a directory in the order in which they are looked at. -/
def places : List Place :=
  [{ name := "pyproject.toml".toList, tables := [["tool", "stylex-fold"]] },
    { name := ".stylex-fold.toml".toList, tables := [["stylex-fold"], ["tool", "stylex-fold"]] }]

/-- The content of a settings file; none if there is no such file, or it cannot be opened, or it is
not TOML. -/
def contentOf (h : Host) (file : Path) : Except SearchError (Option Value) :=
  match h.target file.text with
  | .error .nameTooLong => .error (.unreachable ⟨.nameTooLong, file.text⟩)
  | .ok (.file bytes) =>
      match Text.Utf8.decode bytes with
      | .error fault => .error (.encoding fault)
      | .ok text =>
          match Toml.read h.calls text with
          | .ok v => .ok (some v)
          | .error .malformed => .ok none
          | .error (.tooManyDigits count) => .error (.tooManyDigits count)
          | .error .tooDeep => .error .tooDeep
  | _ => .ok none

/-- The settings in the first of some tables that a document holds. -/
def ofTables (v : Value) (file : Path) : List (List String) → Except Error (Option Config)
  | [] => .ok none
  | table :: rest =>
      match v.lookupPath? table with
      | some found => (ofTable found file.toString table).map some
      | none => ofTables v file rest

/-- The settings in a file, if it holds any. -/
def ofFile (h : Host) (file : Path) (tables : List (List String)) :
    Except SearchError (Option Config) :=
  match contentOf h file with
  | .error e => .error e
  | .ok none => .ok none
  | .ok (some v) => (ofTables v file tables).mapError .refused

/-- The first settings among some files with their tables. -/
def firstAmong (h : Host) : List (Path × List (List String)) → Except SearchError (Option Config)
  | [] => .ok none
  | (file, tables) :: rest =>
      match ofFile h file tables with
      | .error e => .error e
      | .ok (some c) => .ok (some c)
      | .ok none => firstAmong h rest

/-- The files that a search from a directory looks at, in order. -/
def candidates (directory : Path) : List (Path × List (List String)) :=
  directory.ancestors.flatMap fun d => places.map fun place => (d.child place.name, place.tables)

/-- The nearest settings from a path upwards, or the defaults. -/
def search (h : Host) (start : Path) : Except SearchError Config := do
  let directory ← (h.resolve false start).mapError .ofResolve
  match ← firstAmong h (candidates directory) with
  | some c => return c.normalize
  | none => return {}

/-- The nearest settings with overrides, checked. The name of the call's own parameter cannot be
overridden. -/
def build (h : Host) (start : Path) (overrides : Entries) : Except SearchError Config := do
  if overrides.any (·.1 == "search_path") then
    .error (.badName (.taken "build_config" "search_path"))
  let found ← search h start
  let c ← (found.override overrides).mapError fun e => .refused (.badOverride e)
  let c := c.normalize
  c.check.mapError .ofCheck
  return c

end Foldline.Config
