import Foldline.Config
import Foldline.Pattern.Error

/-! # Faults of settings

Why a settings table, an override or a setting is refused. -/

namespace Foldline.Config

/-- A name that cannot be assigned: there is no such setting, or the call that assigns uses the
name itself. -/
inductive NameError where
  | unexpected (name : String)
  | taken (caller name : String)
  deriving DecidableEq, Repr

def NameError.message : NameError → String
  | .unexpected name => s!"FoldConfig.__init__() got an unexpected keyword argument '{name}'"
  | .taken caller name => s!"{caller}() got multiple values for argument '{name}'"

/-- Why settings are refused. -/
inductive Error where
  | notATable (table : List String) (file : String)
  | unknownKeys (table : List String) (file : String) (keys : List String)
  | badOverride (e : NameError)
  | noTokens (field : Field)
  | badToken (field : Field)
  | patternNotText
  | badPattern (e : Pattern.Error)
  | extensionWithoutDot (extension : String)
  | notAnInteger (field : Field)
  | notPositive (field : Field)
  deriving DecidableEq, Repr

/-- A table of a settings file by its dotted name. -/
def tableName (table : List String) : String := ".".intercalate table

def Error.message : Error → String
  | .notATable table file => s!"Invalid `[{tableName table}]` settings in {file}"
  | .unknownKeys table file keys =>
      s!"Invalid `[{tableName table}]` settings in {file}: unknown keys " ++ ", ".intercalate keys
  | .badOverride e => e.message
  | .noTokens field => s!"`{field.name}` must be a non-empty list of strings"
  | .badToken field => s!"`{field.name}` must contain only non-empty strings"
  | .patternNotText => s!"`{Field.keyPattern.name}` must be a non-empty string"
  | .badPattern e => s!"`{Field.keyPattern.name}` is not a valid regular expression: {e.message}"
  | .extensionWithoutDot extension =>
      s!"`{Field.extensions.name}` entries must start with '.', got {Text.quote extension}"
  | .notAnInteger field => s!"`{field.name}` must be an integer"
  | .notPositive field => s!"`{field.name}` must be a positive integer"

end Foldline.Config
