import Foldline.Value

/-! # Readers of TOML

A reader takes characters off the front of a text and gives the rest back. A text that is not TOML
is refused without further detail; an integer with too many digits is a fault of its own, and so are
values that are nested deeper than there is room for. -/

namespace Foldline.Toml

/-- Why a text cannot be read. -/
inductive Fault where
  | malformed
  | tooManyDigits (count : Nat)
  | tooDeep
  deriving DecidableEq, Repr

/-- What is read, with the text that is left. -/
abbrev Reading (α : Type) := Except Fault (α × List Char)

def refuse {α : Type} : Reading α := .error .malformed

/-- A dotted key. -/
abbrev Key := List String

def isSpace (c : Char) : Bool := c == ' ' || c == '\t'

def isSpaceOrBreak (c : Char) : Bool := isSpace c || c == '\n'

def skipSpace (s : List Char) : List Char := s.dropWhile isSpace

/-- Control characters other than the tab stand nowhere outside line ends. -/
def isControl (c : Char) : Bool := (c.toNat < 32 && c != '\t') || c.toNat == 127

/-- Control characters that a text over several lines may not hold. -/
def isControlInLines (c : Char) : Bool := isControl c && c != '\n'

/-- Skip a comment, if there is one, up to the end of its line. -/
def skipComment (s : List Char) : Except Fault (List Char) :=
  match s with
  | '#' :: rest =>
      if (rest.takeWhile (· != '\n')).any isControl then .error .malformed
      else .ok (rest.dropWhile (· != '\n'))
  | _ => .ok s

/-- Skip spaces, line ends and comments; `n` bounds the number of comments. -/
def skipBlanksAndComments : Nat → List Char → Except Fault (List Char)
  | 0, s => .ok s
  | n + 1, s =>
      let s := s.dropWhile isSpaceOrBreak
      match s with
      | '#' :: _ =>
          match skipComment s with
          | .ok rest => skipBlanksAndComments n rest
          | .error e => .error e
      | _ => .ok s

def isHexDigit (c : Char) : Bool :=
  c.isDigit || ('a' ≤ c && c ≤ 'f') || ('A' ≤ c && c ≤ 'F')

/-- The value of a hexadecimal digit. -/
def hexValue (c : Char) : Nat :=
  if c.isDigit then c.toNat - 48 else if 'a' ≤ c then c.toNat - 87 else c.toNat - 55

/-- Take `part` off the front of a text. -/
def dropFront? : List Char → List Char → Option (List Char)
  | [], s => some s
  | _ :: _, [] => none
  | p :: part, c :: s => if p == c then dropFront? part s else none

end Foldline.Toml
