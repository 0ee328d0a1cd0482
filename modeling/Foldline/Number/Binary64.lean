import Foldline.Text.Numeral

/-! # Binary floating point numbers

The numbers of the 64-bit binary format. A decimal is rounded to the nearest of them, a tie going to
the even significand. -/

namespace Foldline.Number

/-- A number of the 64-bit binary format; a finite one is `significand * 2 ^ exponent`. -/
inductive Binary64 where
  | nan
  | infinite (negative : Bool)
  | finite (negative : Bool) (significand : Nat) (exponent : Int)
  deriving DecidableEq, Repr

namespace Binary64

/-- Significands have at most 53 bits. -/
def significandLimit : Nat := 1 <<< 53

/-- The exponent of the least positive number. -/
def leastExponent : Int := -1074

/-- The exponent of the greatest finite numbers. -/
def greatestExponent : Int := 971

/-- `num / den` rounded to an integer, a tie going to the even one. -/
def roundDiv (num den : Nat) : Nat :=
  let q := num / den
  let r := num % den
  if 2 * r < den then q
  else if 2 * r > den then q + 1
  else q + q % 2

/-- `num / den / 2 ^ e` as a quotient of naturals. -/
def scaled (num den : Nat) (e : Int) : Nat × Nat :=
  if e < 0 then (num <<< e.natAbs, den) else (num, den <<< e.natAbs)

/-- The exponent that gives `num / den` a significand of 53 bits, or the least exponent. -/
def exponentFor (num den : Nat) : Int :=
  let guess : Int := (Nat.log2 num : Int) - (Nat.log2 den : Int) - 53
  let fits (e : Int) : Bool :=
    let (n, d) := scaled num den e
    n / d < significandLimit
  let e := if fits guess then guess else if fits (guess + 1) then guess + 1 else guess + 2
  max e leastExponent

/-- The number nearest to the positive quotient `num / den`. -/
def ofQuotient (negative : Bool) (num den : Nat) : Binary64 :=
  let e := exponentFor num den
  let (n, d) := scaled num den e
  let m := roundDiv n d
  let (m, e) := if m == significandLimit then (m / 2, e + 1) else (m, e)
  if e > greatestExponent then .infinite negative else .finite negative m e

/-- The number nearest to `digits * 10 ^ scale`. Far outside the range of the format the answer is
known without the power of ten. -/
def ofDecimal (negative : Bool) (digits : Nat) (scale : Int) : Binary64 :=
  let magnitude := (Nat.log2 digits : Int) * 30103 / 100000 + scale
  if digits == 0 || magnitude < -400 then .finite negative 0 leastExponent
  else if magnitude > 400 then .infinite negative
  else if scale < 0 then ofQuotient negative digits (Nat.pow 10 scale.natAbs)
  else ofQuotient negative (digits * Nat.pow 10 scale.natAbs) 1

def isZero : Binary64 → Bool
  | .finite _ 0 _ => true
  | _ => false

/-- Split off the longest run of ASCII digits as values, low lines left out. -/
def takeDigits : List Char → List Nat × List Char
  | [] => ([], [])
  | c :: rest =>
      if c.isDigit then
        let (ds, tail) := takeDigits rest
        ((c.toNat - 48) :: ds, tail)
      else if c == '_' then takeDigits rest
      else ([], c :: rest)

/-- The exponent part of a decimal, zero when there is none. -/
def exponentPart? : List Char → Option Int
  | [] => some 0
  | e :: rest =>
      if e == 'e' || e == 'E' then
        let (negative, digits) :=
          match rest with
          | '-' :: more => (true, more)
          | '+' :: more => (false, more)
          | more => (false, more)
        match takeDigits digits with
        | ([], _) => none
        | (ds, []) =>
            let n : Int := Text.Numeral.value ds
            some (if negative then -n else n)
        | (_, _ :: _) => none
      else none

/-- Read an unsigned decimal with optional fraction and exponent. -/
def readUnsigned? (negative : Bool) (s : List Char) : Option Binary64 :=
  let (whole, rest) := takeDigits s
  let (fraction, rest) :=
    match rest with
    | '.' :: more => takeDigits more
    | more => ([], more)
  match exponentPart? rest with
  | none => none
  | some e =>
      if whole.isEmpty && fraction.isEmpty then none
      else some (ofDecimal negative (Text.Numeral.value (whole ++ fraction)) (e - fraction.length))

/-- Read a decimal, `inf` or `nan`, with an optional sign. -/
def read? (s : List Char) : Option Binary64 :=
  let (negative, body) :=
    match s with
    | '-' :: rest => (true, rest)
    | '+' :: rest => (false, rest)
    | rest => (false, rest)
  if body == ['i', 'n', 'f'] then some (.infinite negative)
  else if body == ['n', 'a', 'n'] then some .nan
  else readUnsigned? negative body

end Binary64

end Foldline.Number
