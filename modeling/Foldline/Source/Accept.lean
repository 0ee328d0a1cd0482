import Foldline.FileTree.Home
import Foldline.FileTree.Resolve
import Foldline.Text.Case
import Foldline.Value

/-! # Accepting a source file

A path is accepted as a source file if it resolves to a regular file with one of the accepted
suffixes. The suffix is that of the file itself, whatever a link to it is called, and letter case
does not count. -/

namespace Foldline.Source

/-- Why a path is not accepted. -/
inductive PathError where
  | unknownHome
  | nulByte
  | linkLoop (path : List Char)
  | tooDeep
  | missing (path : Path)
  | unresolved (path : Path) (e : SystemError)
  | unreachable (e : SystemError)
  | notAFile (path : Path)
  | suffixesNotACollection (kind : String)
  | suffixNotText (kind : String)
  | otherSuffix (path : Path) (accepted : List (List Char))
  deriving DecidableEq, Repr

/-- Suffixes as they are listed in a message. -/
def suffixList (suffixes : List (List Char)) : String :=
  ", ".intercalate (suffixes.map String.ofList)

def PathError.message : PathError → String
  | .unknownHome => "Could not determine home directory."
  | .nulByte => "embedded null byte"
  | .linkLoop path => s!"Symlink loop from {Text.quote (String.ofList path)}"
  | .tooDeep => "maximum recursion depth exceeded"
  | .missing path => s!"{path.toString} does not exist."
  | .unresolved path e => s!"Error resolving {path.toString}: {e.message}"
  | .unreachable e => e.message
  | .notAFile path => s!"{path.toString} is not a regular file."
  | .suffixesNotACollection kind => s!"'{kind}' object is not iterable"
  | .suffixNotText kind => s!"'{kind}' object has no attribute 'lower'"
  | .otherSuffix path accepted =>
      s!"{path.toString} is not a JavaScript or TypeScript source file.\n" ++
        s!"Supported extensions are: {suffixList accepted}"

/-- Suffixes in lower case. -/
def lowerSuffixes : List Value → Except PathError (List (List Char))
  | [] => .ok []
  | .text s :: rest => (lowerSuffixes rest).map (Text.lower s.toList :: ·)
  | v :: _ => .error (.suffixNotText v.kindName)

/-- The accepted suffixes that a setting gives, in lower case. -/
def acceptedSuffixes (setting : Value) : Except PathError (List (List Char)) :=
  match setting.members? with
  | some members => lowerSuffixes members
  | none => .error (.suffixesNotACollection setting.kindName)

/-- The fault of resolving a path. -/
def PathError.ofResolve (p : Path) : Resolve.Fault → PathError
  | .nulByte => .nulByte
  | .linkLoop path => .linkLoop path
  | .tooDeep => .tooDeep
  | .system e => if e.fault = .notFound then .missing p else .unresolved p e

/-- The fault of a path that starts at a home directory nobody knows. A user cannot even be looked
up by a name with a NUL in it. -/
def PathError.ofHome (p : Path) : PathError :=
  if p.names.head?.any (·.contains '\x00') then .nulByte else .unknownHome

/-- Whether a resolved path is a regular file. -/
def isRegularFile (h : Host) (p : Path) : Except PathError Bool :=
  match h.target p.text with
  | .ok (.file _) => .ok true
  | .ok _ => .ok false
  | .error .nameTooLong => .error (.unreachable ⟨.nameTooLong, p.text⟩)
  | .error _ => .ok false

/-- The place of the source file that a user names. -/
def accept (h : Host) (raw : List Char) (suffixes : Value) : Except PathError Path := do
  let some path := h.expandHome? (Path.ofText raw) | .error (.ofHome (.ofText raw))
  let resolved ← (h.resolve true path).mapError (.ofResolve path)
  if !(← isRegularFile h resolved) then .error (.notAFile resolved)
  let accepted ← acceptedSuffixes suffixes
  if accepted.contains (Text.lower resolved.suffix) then .ok resolved
  else .error (.otherSuffix resolved accepted)

end Foldline.Source
