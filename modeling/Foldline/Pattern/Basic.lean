import Foldline.Pattern.CharTest

/-! # Patterns

The form in which a regular expression with captures, look-around, atomic groups and conditionals is
matched. Flags are worked into the tests, and look-behinds carry the number of characters they go
back. -/

namespace Foldline

/-- How eagerly a repetition takes up text, and whether it gives any back. -/
inductive Pattern.Greed where
  | greedy
  | lazy
  | possessive
  deriving DecidableEq, Repr

/-- A condition on a place between characters. -/
inductive Pattern.Anchor where
  | textStart
  | textEnd
  | lastLineEnd
  | lineStart
  | lineEnd
  | wordBoundary (ascii : Bool)
  | noWordBoundary (ascii : Bool)
  /-- At least so many characters are left. -/
  | room (count : Nat)
  deriving DecidableEq, Repr

/-- A regular expression. `span` repeats a test on one character, `loop` any other pattern; an open
upper bound is `none`. A `span` knows the code point that has to come after it, if there is just
one. A row of branches is made of `alt` and ends in `never`; a branch that starts with a plain test
has it as its guard. -/
inductive Pattern where
  | empty
  | never
  | unit (test : Pattern.CharTest)
  | anchor (a : Pattern.Anchor)
  | seq (first second : Pattern)
  | alt (guard : Option Pattern.CharTest) (first others : Pattern)
  | span (greed : Pattern.Greed) (least : Nat) (most : Option Nat) (test : Pattern.CharTest)
      (follow : Option Nat)
  | loop (greed : Pattern.Greed) (least : Nat) (most : Option Nat) (body : Pattern)
  | capture (group : Nat) (body : Pattern)
  | atomic (body : Pattern)
  | ahead (negated : Bool) (body : Pattern)
  | behind (negated : Bool) (width : Nat) (body : Pattern)
  | backref (group : Nat) (rule : Pattern.CaseRule)
  | cond (group : Nat) (present absent : Pattern)
  deriving DecidableEq, Repr

end Foldline
