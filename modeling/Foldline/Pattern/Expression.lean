import Foldline.Pattern.Basic
import Foldline.Pattern.Flags

/-! # Expressions

The abstract form of the text of a pattern. Flags are not worked in yet: an expression says where
they change, and what a part stands for under them is decided later. -/

namespace Foldline.Pattern

/-- A condition on a place, as it is written. -/
inductive Mark where
  | lineStart
  | lineEnd
  | textStart
  | textEnd
  | wordBoundary
  | noWordBoundary
  deriving DecidableEq, Repr

/-- The least and the greatest number of characters that an expression takes up. -/
structure Width where
  least : Nat
  most : Nat
  deriving DecidableEq, Repr

/-- The text of a pattern, taken apart. A row of parts is made of `seq` and ends in the last part, a
row of branches is made of `alt` and ends in `never`. -/
inductive Expression where
  | empty
  | never
  | literal (code : Nat) (negated : Bool)
  | any
  | set (items : List SetItem) (negated : Bool)
  | mark (m : Mark)
  | backref (group : Nat)
  | seq (first second : Expression)
  | alt (first others : Expression)
  | repeated (greed : Greed) (least : Nat) (most : Option Nat) (body : Expression)
  | capture (group : Nat) (body : Expression)
  | scoped (on off : Flags) (body : Expression)
  | atomic (body : Expression)
  | look (backward negated : Bool) (width : Width) (body : Expression)
  | cond (group : Nat) (present absent : Expression)
  deriving DecidableEq, Repr

/-- The parts of an expression, one after the other. -/
abbrev Row := List Expression

/-- The expression of a row. -/
def Row.expression : Row → Expression
  | [] => .empty
  | [p] => p
  | p :: rest => .seq p (expression rest)

end Foldline.Pattern
