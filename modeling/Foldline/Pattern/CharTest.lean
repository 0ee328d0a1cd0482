import Foldline.Text.Blank
import Foldline.Text.Case.Upper
import Foldline.Text.Digit
import Foldline.Text.Letter

/-! # Tests on one character

The part of a pattern that consumes one character: any character, a single code point, or membership
in a set. Where case is ignored, the character is lower-cased before it is tested, and the members
that a set lists stand for their lower cases. Members beyond the basic plane are the exception: a
single one stands for itself only, and a range is met also by the upper case of the character. -/

namespace Foldline.Pattern

/-- How letters are compared. -/
inductive CaseRule where
  | exact
  | ignored
  | ignoredInAscii
  deriving DecidableEq, Repr

namespace CaseRule

/-- The code point that is compared. -/
def key : CaseRule → Nat → Nat
  | .exact, n => n
  | .ignored, n => Text.lowerCode n
  | .ignoredInAscii, n => Text.asciiLowerCode n

/-- Other keys that count as equal to a key. -/
def twins : CaseRule → Nat → List Nat
  | .ignored, n => Text.twinsOf n
  | _, _ => []

/-- Whether two keys count as equal. -/
def same (rule : CaseRule) (a b : Nat) : Bool := a == b || (rule.twins a).contains b

/-- The code points whose key counts as equal to a key. -/
def sources : CaseRule → Nat → List Nat
  | .exact, n => [n]
  | .ignored, n => (n :: Text.twinsOf n).flatMap Text.raisedCodes
  | .ignoredInAscii, n => Text.asciiRaisedCodes n

/-- Whether a code point between `low` and `high` has case. -/
def someCased : CaseRule → Nat → Nat → Bool
  | .exact, _, _ => false
  | .ignored, low, high => Text.someCased low high
  | .ignoredInAscii, low, high => Text.someAsciiLetter low high

/-- The upper case of a key. -/
def raise : CaseRule → Nat → Nat
  | .exact, n => n
  | _, n => Text.upperCode n

end CaseRule

/-- Classes of characters that patterns have names for. -/
inductive CharClass where
  | digit
  | space
  | word
  deriving DecidableEq, Repr

/-- Class membership, in all of Unicode or in ASCII alone. -/
def CharClass.contains (ascii : Bool) : CharClass → Char → Bool
  | .digit, c => if ascii then c.isDigit else Text.isDigit c
  | .space, c => if ascii then Text.isAsciiBlank c else Text.isBlank c
  | .word, c => if ascii then c.isAlphanum || c == '_' else Text.isWordChar c

/-- A member of a character set. Code points are numbers, since a pattern may name ones that are no
characters. -/
inductive SetItem where
  | one (code : Nat)
  | range (low high : Nat)
  | cls (kind : CharClass) (negated : Bool)
  deriving DecidableEq, Repr

/-- The last code point of the basic plane. -/
def basicLimit : Nat := 0xFFFF

namespace SetItem

/-- Whether the set that holds the item has to look at lower cases. -/
def isCased (rule : CaseRule) : SetItem → Bool
  | .one code => rule != .exact && (basicLimit < rule.key code || rule.someCased code code)
  | .range low high => rule != .exact && (basicLimit < high || rule.someCased low high)
  | .cls .. => false

/-- Whether a code point, which is a key already, is in the item. -/
def holds (rule : CaseRule) (ascii : Bool) (n : Nat) : SetItem → Bool
  | .one code =>
      let key := rule.key code
      if basicLimit < key then n == code else rule.same key n
  | .range low high =>
      let within (m : Nat) : Bool := low ≤ m && m ≤ high
      (rule.sources n).any (fun m => m ≤ basicLimit && within m) ||
        (basicLimit < high && (within n || within (rule.raise n)))
  | .cls kind negated => kind.contains ascii (Char.ofNat n) != negated

end SetItem

/-- A test on one character. -/
inductive CharTest where
  | any
  | notLineFeed
  | one (code : Nat) (negated : Bool) (rule : CaseRule)
  | set (items : List SetItem) (negated ascii : Bool) (rule : CaseRule)
  deriving DecidableEq, Repr

namespace CharTest

/-- A test for one code point; one without case is tested as it is. -/
def ofCode (rule : CaseRule) (code : Nat) (negated : Bool) : CharTest :=
  .one code negated (if rule.someCased code code then rule else .exact)

/-- A test for a set; one without cased members is tested as it is. -/
def ofSet (rule : CaseRule) (ascii : Bool) (items : List SetItem) (negated : Bool) : CharTest :=
  .set items negated ascii (if items.any (·.isCased rule) then rule else .exact)

def accepts : CharTest → Char → Bool
  | .any, _ => true
  | .notLineFeed, c => c != '\n'
  | .one code negated rule, c => rule.same (rule.key code) (rule.key c.toNat) != negated
  | .set items negated ascii rule, c =>
      items.any (·.holds rule ascii (rule.key c.toNat)) != negated

/-- Whether the test is membership in a set of lower cases. -/
def looksUpLowerCase : CharTest → Bool
  | .one code _ rule => !(rule.twins (rule.key code)).isEmpty
  | .set _ _ _ rule => rule != .exact
  | _ => false

/-- Whether the test is for one code point or for a set, as they are. -/
def isPlain : CharTest → Bool
  | .one _ negated rule => !negated && rule == .exact
  | .set _ _ _ rule => rule == .exact
  | _ => false

/-- The code point of a test for just one. -/
def code? : CharTest → Option Nat
  | .one code false .exact => some code
  | _ => none

end CharTest

end Foldline.Pattern
