import Foldline.Config.Check
import Foldline.Document
import Foldline.FileTree

/-! # Reading a source file

A source file is UTF-8. Its size and the length of its lines are limited. -/

namespace Foldline.Source

/-- Why the size of a file is refused. -/
inductive SizeError where
  | nulByte
  | inaccessible (path : Path) (e : SystemError)
  | notAFile (path : Path)
  | tooLarge (path : Path) (limit : Int)
  deriving DecidableEq, Repr

def SizeError.message : SizeError → String
  | .nulByte => "embedded null byte"
  | .inaccessible path e => s!"Error accessing {path.toString}: {e.message}"
  | .notAFile path => s!"{path.toString} is not a regular file."
  | .tooLarge path limit =>
      s!"{path.toString} exceeds the maximum allowed size of {limit} bytes."

/-- A path with a NUL in it cannot be handed to the system. -/
def hasNul (p : Path) : Bool := p.text.contains '\x00'

/-- Check that a path leads to a regular file of at most `limit` bytes. -/
def checkSize (h : Host) (p : Path) (limit : Int) : Except SizeError Unit :=
  if hasNul p then .error .nulByte
  else
    match h.target p.text with
    | .error fault => .error (.inaccessible p ⟨fault, p.text⟩)
    | .ok (.file bytes) =>
        if limit < (bytes.length : Int) then .error (.tooLarge p limit) else .ok ()
    | .ok _ => .error (.notAFile p)

/-- Why a file gives no text. -/
inductive TextError where
  | nulByte
  | inaccessible (path : Path) (e : SystemError)
  | system (e : SystemError)
  | encoding (fault : Text.Utf8.Fault)
  deriving DecidableEq, Repr

def TextError.message : TextError → String
  | .nulByte => "embedded null byte"
  | .inaccessible path e => s!"Error accessing {path.toString}: {e.message}"
  | .system e => e.message
  | .encoding fault => fault.message

/-- Faults that are reported as a lack of access to the file. -/
def isAccessFault : SystemFault → Bool
  | .notFound => true
  | .notADirectory => true
  | .isADirectory => true
  | .nameTooLong => false
  | .tooManyLinks => false

/-- The text of a file, with every line end as LF. -/
def readText (h : Host) (p : Path) : Except TextError (List Char) :=
  if hasNul p then .error .nulByte
  else
    match h.readBytes p.text with
    | .error fault =>
        let e : SystemError := ⟨fault, p.text⟩
        .error (if isAccessFault fault then .inaccessible p e else .system e)
    | .ok bytes =>
        match Text.Utf8.decode bytes with
        | .error fault => .error (.encoding fault)
        | .ok text => .ok (Document.unifyLineEnds text)

/-- A limit on the length of lines. A truth value counts as one or zero and is printed as it is. -/
inductive LineLimit where
  | count (n : Int)
  | flag (b : Bool)
  deriving DecidableEq, Repr

namespace LineLimit

def value : LineLimit → Int
  | .count n => n
  | .flag b => if b then 1 else 0

def text : LineLimit → String
  | .count n => s!"{n}"
  | .flag b => if b then "True" else "False"

/-- The limit that a setting gives; only integers pass the check of settings. -/
def ofSetting : Value → LineLimit
  | .int n => .count n
  | .bool b => .flag b
  | _ => .count 0

end LineLimit

/-- Why a file gives no document. -/
inductive ReadError where
  | settings (e : Config.Error)
  | patternLimit (e : Pattern.Error)
  | limitNotPositive
  | nulByte
  | unreadable (e : TextError)
  | encoding (path : Path) (fault : Text.Utf8.Fault)
  | lineTooLong (path : Path) (line : Nat) (limit : LineLimit)
  deriving DecidableEq, Repr

def ReadError.message : ReadError → String
  | .settings e => e.message
  | .patternLimit e => e.message
  | .limitNotPositive => "`max_line_length` override must be a positive integer"
  | .nulByte => "embedded null byte"
  | .unreadable e => e.message
  | .encoding path fault => s!"Invalid UTF-8 sequence in {path.toString}: {fault.message}"
  | .lineTooLong path line limit =>
      s!"{path.toString} contains a line at line {line} exceeding the maximum allowed length of " ++
        s!"{limit.text} characters."

def ReadError.ofCheck : Config.Fault → ReadError
  | .refused e => .settings e
  | .limit e => .patternLimit e

def ReadError.ofText (p : Path) : TextError → ReadError
  | .nulByte => .nulByte
  | .encoding fault => .encoding p fault
  | e => .unreadable e

/-- Read a file as a document. The settings are checked first, with room for `levels` levels of
groups in the pattern; their limit on the length of lines counts unless another one is given. -/
def readDocumentWithin (levels : Nat) (h : Host) (p : Path) (config : Config)
    (limit : Option LineLimit) : Except ReadError Document := do
  (config.checkWithin levels).mapError .ofCheck
  let limit := limit.getD (.ofSetting config.maxLineLength)
  if limit.value ≤ 0 then .error .limitNotPositive
  let text ← (readText h p).mapError (.ofText p)
  let document := Document.ofText text
  match document.firstLongLine? limit.value with
  | some line => .error (.lineTooLong p line limit)
  | none => .ok document

/-- Read a file as a document with the usual room for groups. -/
def readDocument (h : Host) (p : Path) (config : Config) (limit : Option LineLimit) :
    Except ReadError Document :=
  readDocumentWithin Pattern.usualLevels h p config limit

end Foldline.Source
