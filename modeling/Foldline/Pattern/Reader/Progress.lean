import Foldline.Pattern.Error
import Foldline.Pattern.Expression.Width
import Foldline.Pattern.Token

/-! # Progress through a pattern

Reading goes from left to right, one token ahead. The first fault met ends it. -/

namespace Foldline.Pattern

/-- What has been read so far. -/
structure Progress where
  source : List Char
  rest : List Token
  dangling : Bool
  /-- How many levels of groups there is still room for. -/
  levels : Nat
  position : Nat := 0
  /-- The widths of the groups opened so far; an open group has none yet. -/
  groups : List (Option Width) := []
  names : List (List Char × Nat) := []
  /-- Inside a look-behind, the number of groups opened before it. -/
  lookbehind : Option Nat := none
  /-- Groups that conditionals ask for, with the place of the first question. -/
  asked : List (Nat × Nat) := []
  flags : Flags := {}

/-- A reader of patterns. -/
abbrev Reader := StateT Progress (Except Error)

namespace Reader

/-- Report a problem `back` characters before the next token. -/
def fail {α : Type} (problem : Problem) (back : Nat) : Reader α := do
  let s ← get
  throw (.malformed problem (some (.of s.source (s.position - back))))

/-- Report a problem at a position. -/
def failAt {α : Type} (problem : Problem) (position : Nat) : Reader α := do
  let s ← get
  throw (.malformed problem (some (.of s.source position)))

/-- A lone backslash is reported as soon as it is the next thing to read. -/
def checkNext : Reader Unit := do
  let s ← get
  if s.rest.isEmpty && s.dangling then failAt .danglingBackslash s.position

def peek : Reader (Option Token) := do return (← get).rest.head?

def position : Reader Nat := do return (← get).position

def advance : Reader Unit := do
  let s ← get
  match s.rest with
  | [] => pure ()
  | t :: rest =>
      set { s with rest, position := s.position + t.length }
      checkNext

/-- Read the next token, if there is one. -/
def next : Reader (Option Token) := do
  let t ← peek
  advance
  return t

/-- Whether the next token is the character `c`, which is then read. -/
def accept (c : Char) : Reader Bool := do
  if (← peek) == some (.plain c) then
    advance
    return true
  else return false

/-- Read `content` one level further down, if there is room for another level. -/
def nested {α : Type} (content : Reader α) : Reader α := do
  let s ← get
  match s.levels with
  | 0 => throw .tooDeep
  | levels + 1 =>
      set { s with levels }
      let a ← content
      modify fun s => { s with levels := s.levels + 1 }
      return a

/-- Read characters with property `p`, at most `n`. -/
def takeWhile (p : Char → Bool) : Nat → Reader (List Char)
  | 0 => return []
  | n + 1 => do
      match ← peek with
      | some (.plain c) =>
          if p c then
            advance
            return c :: (← takeWhile p n)
          else return []
      | _ => return []

/-- Read a name up to the character `mark`; `what` says what it names. -/
def nameUntil (mark : Char) (what : String) : Nat → List Char → Reader (List Char)
  | 0, _ => fail .unexpectedEnd 0
  | n + 1, name => do
      match ← next with
      | none =>
          if name.isEmpty then fail (.missingName what) 0
          else fail (.unterminatedName mark) name.length
      | some t =>
          if t == .plain mark then
            if name.isEmpty then fail (.missingName what) 1 else return name
          else nameUntil mark what n (name ++ t.text)

/-- The number of tokens left, which bounds every loop that reads a token per round. -/
def remaining : Reader Nat := do return (← get).rest.length

end Reader

end Foldline.Pattern
