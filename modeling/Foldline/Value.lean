import Foldline.Moment
import Foldline.Number.Shortest
import Foldline.Text.Pieces

/-! # Values of settings

A setting can hold any value that a settings file or a caller can write. Reading a setting as a
collection, as a container or as a condition is defined on every value, with a fault where it makes
no sense. -/

namespace Foldline

/-- A value of a setting. Lists come from settings files, tuples from the program itself. -/
inductive Value where
  | null
  | bool (b : Bool)
  | int (n : Int)
  | real (x : Number.Binary64)
  | text (s : String)
  | list (items : List Value)
  | tuple (items : List Value)
  | table (entries : List (String × Value))
  | moment (m : Moment)

namespace Value

instance : Inhabited Value := ⟨.null⟩

/-- A tuple of texts. -/
def texts (items : List String) : Value := .tuple (items.map .text)

/-- The name of a value's kind in messages. -/
def kindName : Value → String
  | .null => "NoneType"
  | .bool _ => "bool"
  | .int _ => "int"
  | .real _ => "float"
  | .text _ => "str"
  | .list _ => "list"
  | .tuple _ => "tuple"
  | .table _ => "dict"
  | .moment (.date _) => "datetime.date"
  | .moment (.time _) => "datetime.time"
  | .moment (.dateTime ..) => "datetime.datetime"

/-- The members of a collection in order: the characters of a text, the items of a list or tuple,
the keys of a table. -/
def members? : Value → Option (List Value)
  | .text s => some (s.toList.map fun c => .text (String.ofList [c]))
  | .list items => some items
  | .tuple items => some items
  | .table entries => some (entries.map fun e => .text e.1)
  | _ => none

/-- Whether the value is this text. -/
def isText (s : String) : Value → Bool
  | .text t => t == s
  | _ => false

/-- Whether a text is in a container: part of a text, item of a list or tuple, key of a table. -/
def holdsText? (s : List Char) : Value → Option Bool
  | .text t => some (Text.occursIn s t.toList)
  | .list items => some (items.any (isText (String.ofList s)))
  | .tuple items => some (items.any (isText (String.ofList s)))
  | .table entries => some (entries.any fun e => e.1 == String.ofList s)
  | _ => none

/-- Whether a value counts as present: zero and empty values do not. -/
def isPresent : Value → Bool
  | .null => false
  | .bool b => b
  | .int n => n != 0
  | .real x => !x.isZero
  | .text s => !s.isEmpty
  | .list items => !items.isEmpty
  | .tuple items => !items.isEmpty
  | .table entries => !entries.isEmpty
  | .moment _ => true

/-- The value under a key; of entries with one key the last counts. -/
def lookup? (key : String) : Value → Option Value
  | .table entries => (entries.reverse.find? fun e => e.1 == key).map (·.2)
  | _ => none

/-- Follow keys from table to table. -/
def lookupPath? : List String → Value → Option Value
  | [], v => some v
  | key :: rest, v => (v.lookup? key).bind (lookupPath? rest)

mutual

/-- The kind name of the first part of a value that cannot serve as a key: a list or a table. -/
def unkeyable? : Value → Option String
  | .list items => some (Value.list items).kindName
  | .table entries => some (Value.table entries).kindName
  | .tuple items => unkeyableAmong? items
  | _ => none

def unkeyableAmong? : List Value → Option String
  | [] => none
  | v :: rest =>
      match unkeyable? v with
      | some kind => some kind
      | none => unkeyableAmong? rest

end

end Value

end Foldline
