import Foldline.Config.Error

/-! # Assigning settings by name

Settings come by name from three sides: from a caller who gives some of them, from overrides that
leave out what they do not want to change, and from a table of a settings file, where dashes and
low lines in keys are the same. -/

namespace Foldline.Config

/-- Named values in the order given. -/
abbrev Entries := List (String × Value)

/-- Assign named values one after the other; the first name that cannot be assigned is reported. -/
def assign (c : Config) : Entries → Except NameError Config
  | [] => .ok c
  | (name, v) :: rest =>
      match Field.ofName? name with
      | some field => assign (c.set field v) rest
      | none =>
          if name == "self" then .error (.taken "FoldConfig.__init__" name)
          else .error (.unexpected name)

/-- An override counts unless its value is null or the empty tuple. -/
def isEffective : Value → Bool
  | .null => false
  | .tuple [] => false
  | _ => true

def effective (overrides : Entries) : Entries := overrides.filter fun e => isEffective e.2

/-- Apply overrides. The name of the call's own parameter cannot be overridden. -/
def override (c : Config) (overrides : Entries) : Except NameError Config :=
  if overrides.any (·.1 == "config") then .error (.taken "apply_overrides" "config")
  else c.assign (effective overrides)

/-- A key of a settings table with its dashes as low lines. -/
def fieldKey (key : String) : String := String.ofList (Text.replaceChar '-' '_' key.toList)

/-- The keys that name no setting, each once, in code point order. -/
def unknownKeys (entries : Entries) : List String :=
  let keys := (entries.map fun e => fieldKey e.1).filter fun k => (Field.ofName? k).isNone
  keys.eraseDups.mergeSort fun a b => !(b < a)

/-- Settings from a value found in a settings file; of keys that name one setting the last
counts. -/
def ofTable (v : Value) (file : String) (table : List String) : Except Error Config :=
  match v with
  | .table entries =>
      match unknownKeys entries with
      | [] =>
          .ok (entries.foldl (fun c e =>
            match Field.ofName? (fieldKey e.1) with
            | some field => c.set field e.2
            | none => c) {})
      | keys => .error (.unknownKeys table file keys)
  | _ => .error (.notATable table file)

end Foldline.Config
