/-! # Tokens of a pattern

The text of a pattern is a row of single characters and of pairs made of a backslash and the
character after it. -/

namespace Foldline.Pattern

/-- A character of the pattern's text, or a backslash together with the character after it. -/
inductive Token where
  | plain (c : Char)
  | escaped (c : Char)
  deriving DecidableEq, Repr

namespace Token

def text : Token → List Char
  | .plain c => [c]
  | .escaped c => ['\\', c]

def length : Token → Nat
  | .plain _ => 1
  | .escaped _ => 2

end Token

/-- The tokens of a text, and whether a lone backslash is left at the end. -/
def tokens : List Char → List Token × Bool
  | [] => ([], false)
  | ['\\'] => ([], true)
  | '\\' :: c :: rest =>
      let (ts, dangling) := tokens rest
      (.escaped c :: ts, dangling)
  | c :: rest =>
      let (ts, dangling) := tokens rest
      (.plain c :: ts, dangling)

end Foldline.Pattern
