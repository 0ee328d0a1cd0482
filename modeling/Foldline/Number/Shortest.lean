import Foldline.Number.Binary64

/-! # Shortest decimals

The decimal text of a floating point number has the fewest digits that read back as that number, and
of those decimals the nearest. Numbers from 10⁻⁴ up to 10¹⁶ are written positionally. -/

namespace Foldline.Number

/-- A positive quotient of naturals. -/
structure Quotient where
  num : Nat
  den : Nat

namespace Quotient

/-- `m * 2 ^ e`. -/
def ofBinary (m : Nat) (e : Int) : Quotient :=
  if e < 0 then ⟨m, 1 <<< e.natAbs⟩ else ⟨m <<< e.natAbs, 1⟩

/-- `n * 10 ^ p`. -/
def ofDecimal (n : Nat) (p : Int) : Quotient :=
  if p < 0 then ⟨n, Nat.pow 10 p.natAbs⟩ else ⟨n * Nat.pow 10 p.natAbs, 1⟩

def le (a b : Quotient) : Bool := a.num * b.den ≤ b.num * a.den

def lt (a b : Quotient) : Bool := a.num * b.den < b.num * a.den

/-- The whole part of `a / b`. -/
def divFloor (a b : Quotient) : Nat := a.num * b.den / (a.den * b.num)

/-- The distance of two quotients. -/
def distance (a b : Quotient) : Quotient :=
  let x := a.num * b.den
  let y := b.num * a.den
  ⟨if x ≤ y then y - x else x - y, a.den * b.den⟩

end Quotient

/-- The reals that round to one number of the format. -/
structure RoundingInterval where
  low : Quotient
  high : Quotient
  closed : Bool

namespace RoundingInterval

/-- The neighbours' midpoints; they belong to the number when its significand is even. Below a power
of two the neighbours stand closer. -/
def of (m : Nat) (e : Int) : RoundingInterval where
  low :=
    if 2 * m == Binary64.significandLimit && e > Binary64.leastExponent
    then .ofBinary (4 * m - 1) (e - 2)
    else .ofBinary (2 * m - 1) (e - 1)
  high := .ofBinary (2 * m + 1) (e - 1)
  closed := m % 2 == 0

def contains (i : RoundingInterval) (x : Quotient) : Bool :=
  if i.closed then i.low.le x && x.le i.high else i.low.lt x && x.lt i.high

end RoundingInterval

/-- The power of ten `p` with `10 ^ p ≤ v < 10 ^ (p + 1)`. -/
def decimalMagnitude (v : Quotient) : Int :=
  let guess : Int :=
    ((Nat.toDigits 10 v.num).length : Int) - ((Nat.toDigits 10 v.den).length : Int)
  if (Quotient.ofDecimal 1 guess).le v then guess else guess - 1

/-- On the grid of multiples of `10 ^ p`, the point nearest to `v` that lies in the interval; a tie
goes to the even point. -/
def gridPoint? (v : Quotient) (i : RoundingInterval) (p : Int) : Option Nat :=
  let below := v.divFloor (.ofDecimal 1 p)
  let lower := Quotient.ofDecimal below p
  let upper := Quotient.ofDecimal (below + 1) p
  let lowerHit := i.contains lower
  let upperHit := i.contains upper
  if lowerHit && upperHit then
    let a := v.distance lower
    let b := v.distance upper
    if a.lt b then some below
    else if b.lt a then some (below + 1)
    else some (below + below % 2)
  else if lowerHit then some below
  else if upperHit then some (below + 1)
  else none

/-- Try finer and finer grids, from one digit on. -/
def shortestFrom (v : Quotient) (i : RoundingInterval) (p : Int) : Nat → Nat × Int
  | 0 => (v.divFloor (.ofDecimal 1 p), p)
  | tries + 1 =>
      match gridPoint? v i p with
      | some n => (n, p)
      | none => shortestFrom v i (p - 1) tries

/-- Digits without trailing zeros, and the power of ten of the last one. -/
def dropTrailingZeros (p : Int) : List Char → List Char × Int
  | [] => ([], p)
  | '0' :: rest => dropTrailingZeros (p + 1) rest
  | rest => (rest.reverse, p)

/-- The shortest digits of `m * 2 ^ e` and the place of the decimal point after the first digits. -/
def shortestDigits (m : Nat) (e : Int) : List Char × Int :=
  let v := Quotient.ofBinary m e
  let (n, p) := shortestFrom v (.of m e) (decimalMagnitude v) 17
  let (digits, p) := dropTrailingZeros p (Nat.toDigits 10 n).reverse
  (digits, p + digits.length)

/-- Write digits with the decimal point after the first `point` of them. -/
def positional (digits : List Char) (point : Int) : List Char :=
  if point ≤ 0 then
    ['0', '.'] ++ List.replicate point.natAbs '0' ++ digits
  else if digits.length ≤ point.toNat then
    digits ++ List.replicate (point.toNat - digits.length) '0' ++ ['.', '0']
  else digits.take point.toNat ++ '.' :: digits.drop point.toNat

/-- An exponent has a sign and at least two digits. -/
def exponentText (e : Int) : List Char :=
  let digits := Nat.toDigits 10 e.natAbs
  'e' :: (if e < 0 then '-' else '+') :: (if digits.length < 2 then '0' :: digits else digits)

/-- Write digits with one digit before the point and an exponent. -/
def scientific (digits : List Char) (point : Int) : List Char :=
  let rest := digits.drop 1
  digits.take 1 ++ (if rest.isEmpty then [] else '.' :: rest) ++ exponentText (point - 1)

/-- The text of a number. -/
def Binary64.text : Binary64 → List Char
  | .nan => ['n', 'a', 'n']
  | .infinite negative => (if negative then ['-'] else []) ++ ['i', 'n', 'f']
  | .finite negative m e =>
      let sign := if negative then ['-'] else []
      if m == 0 then sign ++ ['0', '.', '0']
      else
        let (digits, point) := shortestDigits m e
        sign ++
          (if -4 < point && point ≤ 16 then positional digits point
          else scientific digits point)

end Foldline.Number
