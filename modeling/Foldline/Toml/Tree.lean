import Foldline.Toml.Basic

/-! # Growing a table

A document builds one table by opening tables along dotted keys and putting values into them. An
array of tables is entered at its last table. -/

namespace Foldline.Toml

abbrev Entries := List (String × Value)

def hasKey (entries : Entries) (key : String) : Bool := entries.any (·.1 == key)

/-- Replace the value under a key, or put it at the end. -/
def put (entries : Entries) (key : String) (v : Value) : Entries :=
  if hasKey entries key then entries.map fun e => if e.1 == key then (key, v) else e
  else entries ++ [(key, v)]

def find? (entries : Entries) (key : String) : Option Value :=
  (entries.find? (·.1 == key)).map (·.2)

/-- Change the table at the end of a dotted key, opening the tables on the way. Arrays are entered
where `throughLists`. Fails where a key leads to something that is no table. -/
def updateAt (throughLists : Bool) (change : Entries → Option Entries) :
    Key → Entries → Option Entries
  | [], entries => change entries
  | key :: rest, entries =>
      match (find? entries key).getD (.table []) with
      | .table inner =>
          (updateAt throughLists change rest inner).map fun t => put entries key (.table t)
      | .list items =>
          match throughLists, items.getLast? with
          | true, some (.table inner) =>
              (updateAt throughLists change rest inner).map fun t =>
                put entries key (.list (items.dropLast ++ [.table t]))
          | _, _ => none
      | _ => none

/-- Open a table. -/
def openTable (key : Key) (entries : Entries) : Option Entries := updateAt true some key entries

/-- Put a new value into the table at `parent`; the key must be free there. -/
def insertAt (throughLists : Bool) (parent : Key) (key : String) (v : Value) (entries : Entries) :
    Option Entries :=
  updateAt throughLists (fun inner => if hasKey inner key then none else some (inner ++ [(key, v)]))
    parent entries

/-- Add an empty table to the array of tables at a key. -/
def appendTable (parent : Key) (key : String) (entries : Entries) : Option Entries :=
  updateAt true
    (fun inner =>
      match find? inner key with
      | none => some (inner ++ [(key, .list [.table []])])
      | some (.list items) => some (put inner key (.list (items ++ [.table []])))
      | some _ => none)
    parent entries

end Foldline.Toml
