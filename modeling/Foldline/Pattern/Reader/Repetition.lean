import Foldline.Pattern.Reader.Escape
import Foldline.Text.Numeral

/-! # Repetitions

Quantifiers and the items they are put on. -/

namespace Foldline.Pattern.Reader

/-- Counts from here on are too large. -/
def countLimit : Nat := 0xFFFFFFFF

/-- The value of a count; numerals beyond the limit of digits are refused. -/
def countOf (digits : List Char) : Reader Nat := do
  if Text.Numeral.maxDigits < digits.length then throw (.tooManyDigits digits.length)
  let n := numberIn 10 digits
  if countLimit ≤ n then throw .repetitionTooLarge
  return n

/-- Bounds in braces after the opening one, or nothing if the brace starts no bounds. -/
def bounds? : Reader (Option (Nat × Option Nat)) := do
  if (← peek) == some (.plain '\x7d') then return none
  let before ← get
  let least ← takeWhile Char.isDigit (← remaining)
  let most ← if ← accept ',' then takeWhile Char.isDigit (← remaining) else pure least
  if !(← accept '\x7d') then
    set before
    return none
  let low ← if least.isEmpty then pure 0 else countOf least
  if most.isEmpty then return some (low, none)
  let high ← countOf most
  if high < low then failAt .leastAboveMost before.position
  return some (low, some high)

/-- What a quantifier has to know of the thing before it. -/
inductive ItemKind where
  | mark
  | repetition
  | other
  deriving DecidableEq

/-- A thing that a quantifier can be put on. A group without a number and without flags is the row
of its parts. -/
structure Item where
  parts : Row
  kind : ItemKind := .other

/-- The item of a single part. -/
def Item.ofPart (p : Expression) : Item :=
  match p with
  | .mark _ => { parts := [p], kind := .mark }
  | _ => { parts := [p] }

/-- The mark after a quantifier that says how greedy it is. -/
def greed : Reader Greed := do
  if ← accept '?' then return .lazy
  if ← accept '+' then return .possessive
  return .greedy

/-- Put a quantifier on the last item; `start` is where the quantifier begins. -/
def quantify (least : Nat) (most : Option Nat) (start : Nat) : List Item → Reader (List Item)
  | [] => failAt .nothingToRepeat start
  | item :: before => do
      match item.kind with
      | .mark => failAt .nothingToRepeat start
      | .repetition => failAt .multipleRepeat start
      | .other =>
          let greed ← greed
          let part := Expression.repeated greed least most item.parts.expression
          return { parts := [part], kind := .repetition } :: before

/-- The parts of a row of items, the last item first. -/
def rowOf (items : List Item) : Row := (items.reverse.map (·.parts)).flatten

end Foldline.Pattern.Reader
