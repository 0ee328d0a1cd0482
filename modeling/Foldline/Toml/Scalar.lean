import Foldline.Text.Numeral
import Foldline.Toml.Basic

/-! # Numbers, dates and times in TOML

A value that starts with a digit or a sign is tried as a date, a time, a number and a special
number, in this order; the longest beginning that fits is taken. -/

namespace Foldline.Toml

/-- More digits with property `p` after a first one; a single low line may stand before each. -/
def moreDigits (p : Char → Bool) : List Char → List Char × List Char
  | '_' :: d :: rest =>
      if p d then
        let (ds, after) := moreDigits p rest
        (d :: ds, after)
      else ([], '_' :: d :: rest)
  | d :: rest =>
      if p d then
        let (ds, after) := moreDigits p rest
        (d :: ds, after)
      else ([], d :: rest)
  | [] => ([], [])

/-- Digits with property `p` and single low lines between them, from the front of a text. -/
def digitRun (p : Char → Bool) : List Char → List Char × List Char
  | [] => ([], [])
  | c :: rest =>
      if p c then
        let (ds, after) := moreDigits p rest
        (c :: ds, after)
      else ([], c :: rest)

def isBinaryDigit (c : Char) : Bool := c == '0' || c == '1'

def isOctalDigit (c : Char) : Bool := '0' ≤ c && c ≤ '7'

def numberIn (base : Nat) (digits : List Char) : Nat :=
  digits.foldl (fun n c => base * n + hexValue c) 0

/-- An integer in base two, eight or sixteen after its leading zero. -/
def basedInteger? : List Char → Option (Value × List Char)
  | c :: rest =>
      let read (base : Nat) (p : Char → Bool) : Option (Value × List Char) :=
        match digitRun p rest with
        | ([], _) => none
        | (ds, after) => some (.int (numberIn base ds), after)
      if c == 'x' then read 16 isHexDigit
      else if c == 'o' then read 8 isOctalDigit
      else if c == 'b' then read 2 isBinaryDigit
      else none
  | [] => none

/-- The fraction of a decimal: a point and digits. -/
def fraction : List Char → List Char × List Char
  | '.' :: rest =>
      match digitRun Char.isDigit rest with
      | ([], _) => ([], '.' :: rest)
      | (ds, after) => ('.' :: ds, after)
  | s => ([], s)

/-- The exponent of a decimal: a letter, an optional sign and digits. -/
def exponent (s : List Char) : List Char × List Char :=
  match s with
  | e :: rest =>
      if e == 'e' || e == 'E' then
        let (sign, digits) :=
          match rest with
          | '+' :: more => (['+'], more)
          | '-' :: more => (['-'], more)
          | more => ([], more)
        match digitRun Char.isDigit digits with
        | ([], _) => ([], s)
        | (ds, after) => (e :: sign ++ ds, after)
      else ([], s)
  | [] => ([], [])

/-- The whole part of a decimal: zero alone, or digits that start with another one. -/
def wholePart : List Char → List Char × List Char
  | '0' :: rest => (['0'], rest)
  | s => digitRun Char.isDigit s

/-- A decimal integer or a floating point number after its sign. -/
def decimal? (negative : Bool) (s : List Char) : Option (Reading Value) :=
  match wholePart s with
  | ([], _) => none
  | (whole, rest) =>
      let (frac, rest) := fraction rest
      let (exp, rest) := exponent rest
      if frac.isEmpty && exp.isEmpty then
        if Text.Numeral.maxDigits < whole.length then some (.error (.tooManyDigits whole.length))
        else
          let n : Int := numberIn 10 whole
          some (.ok (.int (if negative then -n else n), rest))
      else
        match Number.Binary64.readUnsigned? negative (whole ++ frac ++ exp) with
        | some x => some (.ok (.real x, rest))
        | none => some refuse

def number? (s : List Char) : Option (Reading Value) :=
  match s with
  | '+' :: rest => decimal? false rest
  | '-' :: rest => decimal? true rest
  | '0' :: rest =>
      match basedInteger? rest with
      | some found => some (.ok found)
      | none => decimal? false s
  | _ => decimal? false s

/-- The numbers that are no decimals. -/
def special? (s : List Char) : Option (Value × List Char) :=
  let signed : List (List Char × Number.Binary64) :=
    [(['i', 'n', 'f'], .infinite false), (['n', 'a', 'n'], .nan),
      (['-', 'i', 'n', 'f'], .infinite true), (['+', 'i', 'n', 'f'], .infinite false),
      (['-', 'n', 'a', 'n'], .nan), (['+', 'n', 'a', 'n'], .nan)]
  signed.findSome? fun (text, x) => (dropFront? text s).map fun rest => (.real x, rest)

/-- Two digits as a number from `low` to `high`. -/
def twoDigits? (low high : Nat) : List Char → Option (Nat × List Char)
  | a :: b :: rest =>
      if a.isDigit && b.isDigit then
        let n := (a.toNat - 48) * 10 + (b.toNat - 48)
        if low ≤ n && n ≤ high then some (n, rest) else none
      else none
  | _ => none

/-- The digits after the point of a time, as microseconds; digits beyond the sixth are dropped. -/
def micros (s : List Char) : Nat × List Char :=
  match s with
  | '.' :: rest =>
      let digits := rest.takeWhile Char.isDigit
      if digits.isEmpty then (0, s)
      else
        let six := (digits ++ List.replicate 6 '0').take 6
        (numberIn 10 six, rest.dropWhile Char.isDigit)
  | _ => (0, s)

def time? (s : List Char) : Option (Time × List Char) := do
  let (hour, s) ← twoDigits? 0 23 s
  let s ← dropFront? [':'] s
  let (minute, s) ← twoDigits? 0 59 s
  let s ← dropFront? [':'] s
  let (second, s) ← twoDigits? 0 59 s
  let (micro, s) := micros s
  return (⟨hour, minute, second, micro⟩, s)

def date? (s : List Char) : Option (Date × List Char) := do
  let year := s.take 4
  if year.length != 4 || !year.all Char.isDigit then none
  let s ← dropFront? ['-'] (s.drop 4)
  let (month, s) ← twoDigits? 1 12 s
  let s ← dropFront? ['-'] s
  let (day, s) ← twoDigits? 1 31 s
  return (⟨numberIn 10 year, month, day⟩, s)

/-- An offset from UTC in minutes. -/
def offset? : List Char → Option (Int × List Char)
  | c :: rest =>
      if c == 'Z' || c == 'z' then some (0, rest)
      else if c == '+' || c == '-' then do
        let (hours, s) ← twoDigits? 0 23 rest
        let s ← dropFront? [':'] s
        let (minutes, s) ← twoDigits? 0 59 s
        let n : Int := hours * 60 + minutes
        return (if c == '-' then -n else n, s)
      else none
  | [] => none

/-- The time after a date, if a separator and a time follow. -/
def timeAfterDate? : List Char → Option (Time × Option Int × List Char)
  | c :: rest =>
      if c == 'T' || c == 't' || c == ' ' then
        match time? rest with
        | some (t, s) =>
            match offset? s with
            | some (minutes, s) => some (t, some minutes, s)
            | none => some (t, none, s)
        | none => none
      else none
  | [] => none

/-- A date, a date with a time, or a time. A date that the calendar does not have is refused. -/
def moment? (s : List Char) : Option (Reading Value) :=
  match date? s with
  | some (d, rest) =>
      if !d.isValid then some refuse
      else
        match timeAfterDate? rest with
        | some (t, offset, rest) => some (.ok (.moment (.dateTime d t offset), rest))
        | none => some (.ok (.moment (.date d), rest))
  | none =>
      match time? s with
      | some (t, rest) => some (.ok (.moment (.time t), rest))
      | none => none

/-- A date, a time or a number. -/
def scalar (s : List Char) : Reading Value :=
  match moment? s with
  | some reading => reading
  | none =>
      match number? s with
      | some reading => reading
      | none =>
          match special? s with
          | some found => .ok found
          | none => refuse

end Foldline.Toml
