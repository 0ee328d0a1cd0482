import Foldline.FileTree
import Foldline.Text.Numeral

/-! # The limit on file sizes

The environment can set the limit on the size of source files; otherwise a default counts. -/

namespace Foldline.Source

/-- The environment variable that sets the limit. -/
def sizeLimitVariable : String := "STYLEX_FOLD_MAX_FILE_SIZE"

/-- Why a limit is refused. -/
inductive SizeLimitError where
  | notAnInteger (text : String)
  | notPositive (n : Int)
  deriving DecidableEq, Repr

def SizeLimitError.message : SizeLimitError → String
  | .notAnInteger text =>
      s!"Invalid value for {sizeLimitVariable}: {text} (expected positive integer)"
  | .notPositive n => s!"{sizeLimitVariable} must be a positive integer, got {n}."

/-- The limit that a setting of the environment gives. -/
def readSizeLimit (text : String) : Except SizeLimitError Int :=
  match Text.Numeral.read? text.toList with
  | none => .error (.notAnInteger text)
  | some n => if n ≤ 0 then .error (.notPositive n) else .ok n

def sizeLimit (h : Host) (default : Int) : Except SizeLimitError Int :=
  match h.sizeLimit with
  | none => .ok default
  | some text => readSizeLimit text

end Foldline.Source
