import Foldline.Pattern.Expression

/-! # From expressions to patterns

What an expression stands for under given flags. A repetition learns which code point comes right
after it, and a branch which plain test it starts with. -/

namespace Foldline.Pattern

namespace Flags

def literal (f : Flags) (code : Nat) (negated : Bool) : CharTest := .ofCode f.caseRule code negated

def set (f : Flags) (items : List SetItem) (negated : Bool) : CharTest :=
  .ofSet f.caseRule f.ascii items negated

def any (f : Flags) : CharTest := if f.dotAll then .any else .notLineFeed

def anchor (f : Flags) : Mark → Anchor
  | .lineStart => if f.multiline then .lineStart else .textStart
  | .lineEnd => if f.multiline then .lineEnd else .lastLineEnd
  | .textStart => .textStart
  | .textEnd => .textEnd
  | .wordBoundary => .wordBoundary f.ascii
  | .noWordBoundary => .noWordBoundary f.ascii

end Flags

/-- What an expression starts with: a plain test, anything else, or nothing, so that what comes
after it counts. -/
inductive Lead where
  | nothing
  | plain (test : CharTest)
  | other

namespace Lead

def ofTest (test : CharTest) : Lead := if test.isPlain then .plain test else .other

/-- The plain test at the start, where `follow` is the one that comes after the expression. -/
def test? (follow : Option CharTest) : Lead → Option CharTest
  | .nothing => follow
  | .plain test => some test
  | .other => none

end Lead

namespace Expression

/-- The test of an expression that takes up one character by a single test. -/
def test? (f : Flags) : Expression → Option CharTest
  | .literal code negated => some (f.literal code negated)
  | .any => some f.any
  | .set items negated => some (f.set items negated)
  | .scoped on off body => body.test? (f.within on off)
  | _ => none

/-- What an expression starts with. -/
def lead (f : Flags) : Expression → Lead
  | .empty => .nothing
  | .literal code negated => .ofTest (f.literal code negated)
  | .set items negated => .ofTest (f.set items negated)
  | .seq a b =>
      match a.lead f with
      | .nothing => b.lead f
      | found => found
  | .scoped on off body => body.lead (f.within on off)
  | _ => .other

/-- The pattern of an expression, where `follow` is the plain test that comes after it. -/
def compile (f : Flags) (follow : Option CharTest) : Expression → Pattern
  | .empty => .empty
  | .never => .never
  | .literal code negated => .unit (f.literal code negated)
  | .any => .unit f.any
  | .set items negated => .unit (f.set items negated)
  | .mark m => .anchor (f.anchor m)
  | .backref group => .backref group f.caseRule
  | .seq a b => .seq (a.compile f ((b.lead f).test? follow)) (b.compile f follow)
  | .alt a others => .alt ((a.lead f).test? none) (a.compile f none) (others.compile f none)
  | .repeated greed least most body =>
      match body.test? f with
      | some test => .span greed least most test (follow.bind (·.code?))
      | none => .loop greed least most (body.compile f none)
  | .capture group body => .capture group (body.compile f none)
  | .scoped on off body => body.compile (f.within on off) follow
  | .atomic body => .atomic (body.compile f none)
  | .look true negated width body => .behind negated width.least (body.compile f none)
  | .look false negated _ body => .ahead negated (body.compile f none)
  | .cond group present .empty => .cond group (present.compile f follow) .empty
  | .cond group present absent => .cond group (present.compile f none) (absent.compile f follow)

end Expression

end Foldline.Pattern
