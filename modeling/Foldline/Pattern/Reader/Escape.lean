import Foldline.Pattern.Reader.Progress
import Foldline.Text.CharacterName

/-! # Escapes

What a backslash and the characters after it stand for, inside and outside character sets. -/

namespace Foldline.Pattern.Reader

def isHexDigit (c : Char) : Bool :=
  c.isDigit || ('a' ≤ c && c ≤ 'f') || ('A' ≤ c && c ≤ 'F')

def isOctalDigit (c : Char) : Bool := '0' ≤ c && c ≤ '7'

/-- The value of an ASCII digit in bases up to sixteen. -/
def digitOf (c : Char) : Nat :=
  if c.isDigit then c.toNat - 48
  else if 'a' ≤ c then c.toNat - 87
  else c.toNat - 55

def numberIn (base : Nat) (digits : List Char) : Nat :=
  digits.foldl (fun n c => base * n + digitOf c) 0

/-- An escape of exactly `count` hexadecimal digits after `letter`. -/
def hexEscape (letter : Char) (count : Nat) : Reader Nat := do
  let digits ← takeWhile isHexDigit count
  let text := '\\' :: letter :: digits
  if digits.length != count then fail (.incompleteEscape text) text.length
  let code := numberIn 16 digits
  if 0x10FFFF < code then fail (.badEscape text) text.length
  return code

/-- An escape that names a character. -/
def namedEscape : Reader Nat := do
  if !(← accept '\x7b') then fail .missingBrace 0
  let name ← nameUntil '\x7d' "character name" ((← remaining) + 1) []
  match Text.CharacterName.code? name with
  | some code => return code
  | none => fail (.unknownCharacterName name) (name.length + 4)

/-- The control characters with an escape of their own. -/
def controlEscape? : Char → Option Nat
  | 'a' => some 7
  | 'b' => some 8
  | 'f' => some 12
  | 'n' => some 10
  | 'r' => some 13
  | 't' => some 9
  | 'v' => some 11
  | '\\' => some 92
  | _ => none

/-- The escapes that name a class of characters. -/
def classEscape? : Char → Option SetItem
  | 'd' => some (.cls .digit false)
  | 'D' => some (.cls .digit true)
  | 's' => some (.cls .space false)
  | 'S' => some (.cls .space true)
  | 'w' => some (.cls .word false)
  | 'W' => some (.cls .word true)
  | _ => none

/-- The escapes that are conditions on a place. -/
def markEscape? : Char → Option Mark
  | 'A' => some .textStart
  | 'Z' => some .textEnd
  | 'b' => some .wordBoundary
  | 'B' => some .noWordBoundary
  | _ => none

/-- Letters may be escaped only where the escape means something; other characters stand for
themselves. -/
def selfEscape (c : Char) : Reader Nat := do
  if c.isAlpha then fail (.badEscape ['\\', c]) 2
  return c.toNat

/-- An escape inside a character set. -/
def setEscape (c : Char) : Reader SetItem := do
  match controlEscape? c, classEscape? c with
  | some code, _ => return .one code
  | none, some item => return item
  | none, none =>
      if c == 'x' then return .one (← hexEscape c 2)
      else if c == 'u' then return .one (← hexEscape c 4)
      else if c == 'U' then return .one (← hexEscape c 8)
      else if c == 'N' then return .one (← namedEscape)
      else if isOctalDigit c then
        let digits := c :: (← takeWhile isOctalDigit 2)
        let code := numberIn 8 digits
        if 0o377 < code then
          fail (.octalTooLarge ('\\' :: digits)) (digits.length + 1)
        return .one code
      else if c.isDigit then fail (.badEscape ['\\', c]) 2
      else return .one (← selfEscape c)

/-- Whether a group is closed. -/
def isClosed (group : Nat) : Reader Bool := do
  return group != 0 && ((← get).groups[group - 1]?.bind id).isSome

/-- Inside a look-behind only groups from before it may be asked for. -/
def checkLookbehind (group : Nat) : Reader Unit := do
  match (← get).lookbehind with
  | none => pure ()
  | some before =>
      if !(← isClosed group) then fail .openGroup 0
      if before < group then fail .groupOfSameLookbehind 0

/-- A reference to a group by number. -/
def groupReference (group length : Nat) : Reader Expression := do
  if (← get).groups.length < group then fail (.invalidGroup group) (length - 1)
  if !(← isClosed group) then fail .openGroup length
  checkLookbehind group
  return .backref group

/-- An escape that starts with a digit other than zero: a group number of one or two digits, or
three octal digits. -/
def digitEscape (c : Char) : Reader Expression := do
  match ← takeWhile Char.isDigit 1 with
  | [] => groupReference (digitOf c) 2
  | d :: _ =>
      if isOctalDigit c && isOctalDigit d then
        match ← takeWhile isOctalDigit 1 with
        | [] => groupReference (numberIn 10 [c, d]) 3
        | e :: _ =>
            let code := numberIn 8 [c, d, e]
            if 0o377 < code then fail (.octalTooLarge ['\\', c, d, e]) 4
            return .literal code false
      else groupReference (numberIn 10 [c, d]) 3

/-- An escape outside character sets. -/
def escape (c : Char) : Reader Expression := do
  match markEscape? c, classEscape? c, controlEscape? c with
  | some m, _, _ => return .mark m
  | none, some item, _ => return .set [item] false
  | none, none, some code => return .literal code false
  | none, none, none =>
      if c == 'x' then return .literal (← hexEscape c 2) false
      else if c == 'u' then return .literal (← hexEscape c 4) false
      else if c == 'U' then return .literal (← hexEscape c 8) false
      else if c == 'N' then return .literal (← namedEscape) false
      else if c == '0' then return .literal (numberIn 8 (← takeWhile isOctalDigit 2)) false
      else if c.isDigit then digitEscape c
      else return .literal (← selfEscape c) false

end Foldline.Pattern.Reader
