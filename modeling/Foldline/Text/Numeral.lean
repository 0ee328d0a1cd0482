import Foldline.Text.Blank
import Foldline.Text.Digit

/-! # Integer numerals

A numeral is an optional sign and decimal digits of any script, with single low lines allowed
between digits and blanks allowed around the whole. More than `maxDigits` digits are refused, in
reading and in writing. -/

namespace Foldline.Text.Numeral

/-- The longest numeral that is read or written, counted in digits. -/
def maxDigits : Nat := 4300

/-- Whether a number is short enough to be written. -/
def canWrite (n : Int) : Bool := (Nat.toDigits 10 n.natAbs).length ≤ maxDigits

/-- The positional value of digits, most significant first. -/
def value (digits : List Nat) : Nat := digits.foldl (fun n d => 10 * n + d) 0

/-- The digits of a run in which single low lines may stand between digits. -/
def digitRun : List Char → Option (List Nat)
  | [] => none
  | c :: rest =>
      match digitValue? c with
      | none => none
      | some d =>
          match rest with
          | [] => some [d]
          | '_' :: more => (digitRun more).map (d :: ·)
          | e :: more => (digitRun (e :: more)).map (d :: ·)

/-- Blanks around a numeral: ASCII has fewer of them than there are in a text. -/
def isOuterBlank (c : Char) : Bool := isAsciiBlank c || (128 ≤ c.toNat && isBlank c)

def trimmed (s : List Char) : List Char := trimBy isOuterBlank s

/-- A run of digits that is not too long, as a number. -/
def magnitude? (s : List Char) : Option Nat :=
  match digitRun s with
  | some ds => if ds.length ≤ maxDigits then some (value ds) else none
  | none => none

def read? (s : List Char) : Option Int :=
  match trimmed s with
  | '-' :: rest => (magnitude? rest).map fun n => -(n : Int)
  | '+' :: rest => (magnitude? rest).map fun n => (n : Int)
  | rest => (magnitude? rest).map fun n => (n : Int)

end Foldline.Text.Numeral
