/-! # Similarity of texts

Two texts are alike by how much of them matches. The longest block that stands in both is matched
first, then what is left of it on both sides and what is right of it, and so on. -/

namespace Foldline.Text

/-- The length of the common beginning of two texts. -/
def commonStart : List Char → List Char → Nat
  | a :: s, b :: t => if a == b then commonStart s t + 1 else 0
  | _, _ => 0

/-- A block that stands in two texts, by its place in each and its length. -/
structure Block where
  left : Nat
  right : Nat
  length : Nat
  deriving DecidableEq, Repr

/-- The longest common block; of blocks of one length the first in `s`, then the first in `t`. -/
def longestBlock (s t : List Char) : Block :=
  let spots := (List.range s.length).flatMap fun i => (List.range t.length).map fun j => (i, j)
  spots.foldl (fun best (i, j) =>
    let length := commonStart (s.drop i) (t.drop j)
    if best.length < length then ⟨i, j, length⟩ else best) ⟨0, 0, 0⟩

/-- The number of matched characters; `n` bounds how often a text is split. -/
def matchedWithin : Nat → List Char → List Char → Nat
  | 0, _, _ => 0
  | n + 1, s, t =>
      let b := longestBlock s t
      if b.length = 0 then 0
      else
        matchedWithin n (s.take b.left) (t.take b.right) + b.length +
          matchedWithin n (s.drop (b.left + b.length)) (t.drop (b.right + b.length))

def matchedLength (s t : List Char) : Nat := matchedWithin (s.length + 1) s t

/-- Whether a number of matched characters is at least three fifths of what two texts have. -/
def isMost (matched : Nat) (s t : List Char) : Bool :=
  decide (3 * (s.length + t.length) ≤ 10 * matched)

/-- Two texts are close if at least three fifths of their characters match. No more can match than
the shorter text has. -/
def areClose (s t : List Char) : Bool :=
  isMost (min s.length t.length) s t && isMost (matchedLength s t) s t

/-- Whether `a` is at least as close to `word` as `b`; between equals the greater text comes
first. -/
def isCloserOrEqual (word : List Char) (a b : String) : Bool :=
  let left := matchedLength a.toList word * (b.length + word.length)
  let right := matchedLength b.toList word * (a.length + word.length)
  decide (right < left) || (left == right && !decide (a < b))

/-- The texts close to a word, closest first, at most three. -/
def closeTexts (word : List Char) (texts : List String) : List String :=
  ((texts.filter fun t => areClose t.toList word).mergeSort (isCloserOrEqual word)).take 3

end Foldline.Text
