import Foldline.Pattern.Expression

/-! # Widths

How many characters an expression can take up. Widths are counted up to a ceiling, which every
group, branch and repeated part applies to its own content. -/

namespace Foldline.Pattern

namespace Width

/-- A count that stands for any number of rounds; no greatest width is above it. -/
def ceiling : Nat := 0xFFFFFFFF

def zero : Width := ⟨0, 0⟩

def add (a b : Width) : Width := ⟨a.least + b.least, a.most + b.most⟩

/-- The width of either of two. -/
def either (a b : Width) : Width := ⟨min a.least b.least, max a.most b.most⟩

def times (least : Nat) (most : Option Nat) (w : Width) : Width :=
  ⟨w.least * least, w.most * most.getD ceiling⟩

def capped (w : Width) : Width := ⟨min w.least (ceiling - 1), min w.most ceiling⟩

end Width

/-- The width of a row of parts before the ceiling is applied, given the widths of the groups. -/
def Expression.rowWidth (groups : Nat → Width) : Expression → Width
  | .empty => .zero
  | .never => ⟨Width.ceiling - 1, 0⟩
  | .literal .. => ⟨1, 1⟩
  | .any => ⟨1, 1⟩
  | .set .. => ⟨1, 1⟩
  | .mark _ => .zero
  | .backref group => groups group
  | .seq a b => (a.rowWidth groups).add (b.rowWidth groups)
  | .alt a others => (a.rowWidth groups).capped.either (others.rowWidth groups)
  | .repeated _ least most body => .times least most (body.rowWidth groups).capped
  | .capture _ body => (body.rowWidth groups).capped
  | .scoped _ _ body => (body.rowWidth groups).capped
  | .atomic body => (body.rowWidth groups).capped
  | .look .. => .zero
  | .cond _ present absent =>
      (present.rowWidth groups).capped.either (absent.rowWidth groups).capped

/-- The width of an expression, given the widths of the groups. -/
def Expression.width (groups : Nat → Width) (e : Expression) : Width := (e.rowWidth groups).capped

end Foldline.Pattern
