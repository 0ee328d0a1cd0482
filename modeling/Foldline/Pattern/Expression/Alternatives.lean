import Foldline.Pattern.Expression

/-! # Alternatives

Branches between bars are brought into a simple form when they are read. Parts without content of
their own that all branches start with come first, once. What is left of the branches is one set if
each of them is a code point or a set. -/

namespace Foldline.Pattern

/-- Whether two parts are the same at sight: they are equal and hold no other expression. -/
def Expression.agrees : Expression → Expression → Bool
  | .literal a m, .literal b n => a == b && m == n
  | .any, .any => true
  | .set a m, .set b n => a == b && m == n
  | .mark a, .mark b => a == b
  | .backref a, .backref b => a == b
  | _, _ => false

/-- The members of a code point or of a set that is not negated. -/
def Expression.members? : Expression → Option (List SetItem)
  | .literal code false => some [.one code]
  | .set items false => some items
  | _ => none

/-- What the branches have after their first part, if that agrees with `p`. -/
def tailsAfter? (p : Expression) : List Row → Option (List Row)
  | [] => some []
  | [] :: _ => none
  | (q :: rest) :: others => if p.agrees q then (tailsAfter? p others).map (rest :: ·) else none

/-- The parts that all branches start with, and what is left of the branches; `first` is the first
branch. -/
def commonStart (first : Row) (others : List Row) : Row × List Row :=
  match first with
  | [] => ([], [] :: others)
  | p :: rest =>
      match tailsAfter? p others with
      | some tails =>
          let (common, left) := commonStart rest tails
          (p :: common, left)
      | none => ([], (p :: rest) :: others)

/-- The members of all branches, if each is one code point or one set. -/
def mergedMembers? : List Row → Option (List SetItem)
  | [] => some []
  | [p] :: others => do return (← p.members?) ++ (← mergedMembers? others)
  | _ :: _ => none

/-- A list without later copies of its members. -/
def withoutCopies (items : List SetItem) : List SetItem :=
  items.foldl (fun kept item => if kept.contains item then kept else kept ++ [item]) []

/-- The row of branches as they are. -/
def branchRow : List Row → Expression
  | [] => .never
  | row :: others => .alt row.expression (branchRow others)

/-- The expression for one of several branches. -/
def alternatives : List Row → Row
  | [] => []
  | [row] => row
  | first :: others =>
      let (common, left) := commonStart first others
      match mergedMembers? left with
      | some items => common ++ [.set (withoutCopies items) false]
      | none => common ++ [branchRow left]

end Foldline.Pattern
