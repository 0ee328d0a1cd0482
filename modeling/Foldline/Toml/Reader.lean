import Foldline.Toml.Quoted
import Foldline.Toml.Scalar
import Foldline.Toml.Tree

/-! # Reading TOML

A document is a row of statements, one to a line: a key with its value, the header of a table, or
the header of a new table in an array of tables. A table can be defined only once, and a value
written in one piece cannot be added to later.

A value inside another is read by calls inside those that read the other: two calls for what is in
an array, three for what is in an inline table. Readers are told how many calls there is room
for. -/

namespace Foldline.Toml

def isBareKeyChar (c : Char) : Bool := c.isAlphanum || c == '-' || c == '_'

/-- One part of a dotted key. -/
def keyPart (s : List Char) : Reading String :=
  match s with
  | [] => refuse
  | c :: rest =>
      if isBareKeyChar c then
        .ok (String.ofList (s.takeWhile isBareKeyChar), s.dropWhile isBareKeyChar)
      else if c == '\'' then (literalText rest).map fun (t, s) => (String.ofList t, s)
      else if c == '"' then (basicText rest).map fun (t, s) => (String.ofList t, s)
      else refuse

/-- A dotted key and the spaces after it; `n` bounds the number of parts. -/
def dottedKey : Nat → List Char → Reading Key
  | 0, _ => refuse
  | n + 1, s =>
      match keyPart s with
      | .error e => .error e
      | .ok (part, rest) =>
          match skipSpace rest with
          | '.' :: more => (dottedKey n (skipSpace more)).map fun (key, s) => (part :: key, s)
          | rest => .ok ([part], rest)

/-- A dotted key without its last part, and the last part. -/
def splitLast (key : Key) : Key × String := (key.dropLast, key.getLast?.getD "")

/-- Whether a value is written in one piece with parts of its own. -/
def isCompound : Value → Bool
  | .list _ => true
  | .table _ => true
  | _ => false

/-- Read with the room that is left after `cost` calls, if there is room for them. -/
def within {α : Type} (cost calls : Nat) (content : Nat → Reading α) : Reading α :=
  if calls < cost then .error .tooDeep else content (calls - cost)

/-- The calls that lead from an array to what is in it. -/
def arrayCost : Nat := 2

/-- The calls that lead from an inline table to what is in it. -/
def inlineCost : Nat := 3

mutual

/-- A value; `n` bounds the depth and number of parts. -/
def value : Nat → Nat → List Char → Reading Value
  | 0, _, _ => refuse
  | n + 1, calls, s =>
      match s with
      | '"' :: '"' :: '"' :: rest =>
          (multilineText false rest).map fun (t, s) => (.text (String.ofList t), s)
      | '"' :: rest => (basicText rest).map fun (t, s) => (.text (String.ofList t), s)
      | '\'' :: '\'' :: '\'' :: rest =>
          (multilineText true rest).map fun (t, s) => (.text (String.ofList t), s)
      | '\'' :: rest => (literalText rest).map fun (t, s) => (.text (String.ofList t), s)
      | '[' :: rest => within arrayCost calls fun calls => arrayItems n calls [] rest
      | '\x7b' :: rest =>
          within inlineCost calls fun calls =>
            match skipSpace rest with
            | '\x7d' :: after => .ok (.table [], after)
            | body => inlineEntries n calls [] [] body
      | _ =>
          match dropFront? ['t', 'r', 'u', 'e'] s, dropFront? ['f', 'a', 'l', 's', 'e'] s with
          | some rest, _ => .ok (.bool true, rest)
          | none, some rest => .ok (.bool false, rest)
          | none, none => scalar s

/-- The items of an array from here to its closing bracket, `done` being read. -/
def arrayItems : Nat → Nat → List Value → List Char → Reading Value
  | 0, _, _, _ => refuse
  | n + 1, calls, done, s =>
      match skipBlanksAndComments (s.length + 1) s with
      | .error e => .error e
      | .ok (']' :: rest) => .ok (.list done, rest)
      | .ok s =>
          match value n calls s with
          | .error e => .error e
          | .ok (v, rest) =>
              match skipBlanksAndComments (rest.length + 1) rest with
              | .error e => .error e
              | .ok (']' :: rest) => .ok (.list (done ++ [v]), rest)
              | .ok (',' :: rest) => arrayItems n calls (done ++ [v]) rest
              | .ok _ => refuse

/-- The entries of an inline table from here to its closing brace. Entries whose keys go through a
compound value of an earlier entry, listed in `frozen`, are refused. -/
def inlineEntries : Nat → Nat → Entries → List Key → List Char → Reading Value
  | 0, _, _, _, _ => refuse
  | n + 1, calls, done, frozen, s =>
      match keyValue n calls s with
      | .error e => .error e
      | .ok ((key, v), rest) =>
          if frozen.any (·.isPrefixOf key) then refuse
          else
            let (parent, last) := splitLast key
            match insertAt false parent last v done with
            | none => refuse
            | some entries =>
                match skipSpace rest with
                | '\x7d' :: after => .ok (.table entries, after)
                | ',' :: after =>
                    inlineEntries n calls entries
                      (if isCompound v then key :: frozen else frozen) (skipSpace after)
                | _ => refuse

/-- A dotted key, an equals sign and a value. -/
def keyValue : Nat → Nat → List Char → Reading (Key × Value)
  | 0, _, _ => refuse
  | n + 1, calls, s =>
      match dottedKey (s.length + 1) s with
      | .error e => .error e
      | .ok (key, '=' :: rest) => (value n calls (skipSpace rest)).map fun (v, s) => ((key, v), s)
      | .ok _ => refuse

end

/-- A document read so far. -/
structure Progress where
  entries : Entries := []
  /-- The table that entries go to. -/
  header : Key := []
  /-- Tables that may not be opened again. -/
  closed : List Key := []
  /-- Tables that may not be opened again once another header follows. -/
  closing : List Key := []
  /-- Values written in one piece. -/
  frozen : List Key := []

namespace Progress

def isFrozen (p : Progress) (key : Key) : Bool := p.frozen.any (·.isPrefixOf key)

/-- A header ends the section before it. -/
def endSection (p : Progress) : Progress :=
  { p with closed := p.closing ++ p.closed, closing := [] }

/-- The containers that a dotted key names on its way. -/
def containers (header key : Key) : List Key :=
  (List.range (key.length - 1)).map fun i => header ++ key.take (i + 1)

/-- Take in a key with its value. -/
def addEntry (p : Progress) (key : Key) (v : Value) : Option Progress :=
  let onTheWay := containers p.header key
  if onTheWay.any p.closed.contains then none
  else
    let (parent, last) := splitLast key
    if p.isFrozen (p.header ++ parent) then none
    else
      (insertAt true (p.header ++ parent) last v p.entries).map fun entries =>
        { p with
          entries
          closing := onTheWay ++ p.closing
          frozen := if isCompound v then (p.header ++ key) :: p.frozen else p.frozen }

/-- Open a table by its header. -/
def openHeader (p : Progress) (key : Key) : Option Progress :=
  if p.closed.contains key || p.isFrozen key then none
  else
    (openTable key p.entries).map fun entries =>
      { p with entries, header := key, closed := key :: p.closed }

/-- Open a new table of an array by its header; what was known below the key is forgotten. -/
def openArrayHeader (p : Progress) (key : Key) : Option Progress :=
  if p.isFrozen key then none
  else
    let (parent, last) := splitLast key
    let outside := fun k : Key => !key.isPrefixOf k
    (appendTable parent last p.entries).map fun entries =>
      { p with
        entries
        header := key
        closed := key :: p.closed.filter outside
        frozen := p.frozen.filter outside }

end Progress

/-- A result or a refusal. -/
def orRefuse {α : Type} : Option α → Except Fault α
  | some a => .ok a
  | none => .error .malformed

/-- A table header after its opening bracket. -/
def header (p : Progress) (s : List Char) : Except Fault (Progress × List Char) :=
  match dottedKey (s.length + 1) (skipSpace s) with
  | .error e => .error e
  | .ok (key, ']' :: rest) => (orRefuse (p.endSection.openHeader key)).map fun q => (q, rest)
  | .ok _ => .error .malformed

/-- A header of an array of tables after its opening brackets. -/
def arrayHeader (p : Progress) (s : List Char) : Except Fault (Progress × List Char) :=
  match dottedKey (s.length + 1) (skipSpace s) with
  | .error e => .error e
  | .ok (key, ']' :: ']' :: rest) =>
      (orRefuse (p.endSection.openArrayHeader key)).map fun q => (q, rest)
  | .ok _ => .error .malformed

/-- One statement, or nothing on a line of its own comment. -/
def statement (calls : Nat) (p : Progress) (s : List Char) : Except Fault (Progress × List Char) :=
  match s with
  | '[' :: '[' :: rest => arrayHeader p rest
  | '[' :: rest => header p rest
  | '#' :: _ => .ok (p, s)
  | _ =>
      match keyValue (2 * s.length + 3) calls s with
      | .error e => .error e
      | .ok ((key, v), rest) => (orRefuse (p.addEntry key v)).map fun q => (q, rest)

/-- The statements from here to the end; `n` bounds the number of lines. -/
def statements (calls : Nat) : Nat → Progress → List Char → Except Fault Progress
  | 0, p, _ => .ok p
  | n + 1, p, s =>
      match skipSpace s with
      | [] => .ok p
      | '\n' :: rest => statements calls n p rest
      | s =>
          match statement calls p s with
          | .error e => .error e
          | .ok (q, rest) =>
              match skipComment (skipSpace rest) with
              | .error e => .error e
              | .ok [] => .ok q
              | .ok ('\n' :: rest) => statements calls n q rest
              | .ok _ => .error .malformed

/-- Line ends of two characters count as one. -/
def dropReturns : List Char → List Char
  | '\r' :: '\n' :: rest => '\n' :: dropReturns rest
  | c :: rest => c :: dropReturns rest
  | [] => []

/-- Read a document into a table with room for a number of calls. -/
def read (calls : Nat) (source : List Char) : Except Fault Value :=
  let s := dropReturns source
  (statements calls (s.length + 1) {} s).map fun p => .table p.entries

end Foldline.Toml
