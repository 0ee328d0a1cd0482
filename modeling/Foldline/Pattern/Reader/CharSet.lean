import Foldline.Pattern.Expression.Alternatives
import Foldline.Pattern.Reader.Escape

/-! # Character sets

Sets in brackets: single characters, ranges and classes. -/

namespace Foldline.Pattern.Reader

/-- One end of a range, or a member of its own. -/
def setMember : Token → Reader SetItem
  | .escaped c => setEscape c
  | .plain c => return .one c.toNat

/-- The range between two members, which have to be single code points in ascending order. -/
def setRange (low high : SetItem) (lowToken highToken : Token) : Reader SetItem := do
  let bad : Reader SetItem :=
    fail (.badRange lowToken.text highToken.text) (lowToken.length + 1 + highToken.length)
  match low, high with
  | .one a, .one b => if b < a then bad else return .range a b
  | _, _ => bad

/-- The members of a character set up to its closing bracket; `start` is where the set began. -/
def setItems (start : Nat) : Nat → List SetItem → Reader (List SetItem)
  | 0, _ => failAt .unterminatedSet start
  | n + 1, items => do
      match ← next with
      | none => failAt .unterminatedSet start
      | some t =>
          if t == .plain ']' && !items.isEmpty then return items
          else
            let low ← setMember t
            if ← accept '-' then
              match ← next with
              | none => failAt .unterminatedSet start
              | some u =>
                  if u == .plain ']' then return items ++ [low, .one '-'.toNat]
                  else
                    let high ← setMember u
                    setItems start n (items ++ [← setRange low high t u])
            else setItems start n (items ++ [low])

/-- A character set after its opening bracket. A set of one code point is that code point. -/
def charSet : Reader Expression := do
  let start := (← position) - 1
  let negated ← accept '^'
  let items ← setItems start ((← remaining) + 1) []
  match withoutCopies items with
  | [.one code] => return .literal code negated
  | items => return .set items negated

end Foldline.Pattern.Reader
