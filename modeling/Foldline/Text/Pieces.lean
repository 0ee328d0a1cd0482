/-! # Pieces of a text

Cutting at a character, joining, and looking for one text inside another. -/

namespace Foldline.Text

/-- The pieces between the occurrences of `mark`; there is one more piece than marks. -/
def cutAt (mark : Char) : List Char → List (List Char)
  | [] => [[]]
  | c :: rest =>
      if c == mark then [] :: cutAt mark rest
      else
        match cutAt mark rest with
        | piece :: pieces => (c :: piece) :: pieces
        | [] => [[c]]

/-- Whether `part` stands somewhere inside a text. -/
def occursIn (part : List Char) : List Char → Bool
  | [] => part.isEmpty
  | c :: rest => part.isPrefixOf (c :: rest) || occursIn part rest

/-- Replace every `old` character by `new`. -/
def replaceChar (old new : Char) (s : List Char) : List Char :=
  s.map fun c => if c == old then new else c

/-- Drop `tail` from the end of a text that ends in it. -/
def dropSuffix (tail s : List Char) : List Char :=
  if tail.isSuffixOf s then s.take (s.length - tail.length) else s

end Foldline.Text
