import Foldline.Pattern.CharTest

/-! # Flags of a pattern

Single letters switch the reading of a pattern or of one of its groups. -/

namespace Foldline.Pattern

/-- The flags in force, or a set of flags to switch. -/
structure Flags where
  ignoreCase : Bool := false
  multiline : Bool := false
  dotAll : Bool := false
  verbose : Bool := false
  ascii : Bool := false
  unicode : Bool := false
  locale : Bool := false
  template : Bool := false
  deriving DecidableEq, Repr

namespace Flags

/-- The flag of a letter. -/
def ofLetter? : Char → Option Flags
  | 'i' => some { ignoreCase := true }
  | 'm' => some { multiline := true }
  | 's' => some { dotAll := true }
  | 'x' => some { verbose := true }
  | 'a' => some { ascii := true }
  | 'u' => some { unicode := true }
  | 'L' => some { locale := true }
  | 't' => some { template := true }
  | _ => none

def union (a b : Flags) : Flags where
  ignoreCase := a.ignoreCase || b.ignoreCase
  multiline := a.multiline || b.multiline
  dotAll := a.dotAll || b.dotAll
  verbose := a.verbose || b.verbose
  ascii := a.ascii || b.ascii
  unicode := a.unicode || b.unicode
  locale := a.locale || b.locale
  template := a.template || b.template

def inter (a b : Flags) : Flags where
  ignoreCase := a.ignoreCase && b.ignoreCase
  multiline := a.multiline && b.multiline
  dotAll := a.dotAll && b.dotAll
  verbose := a.verbose && b.verbose
  ascii := a.ascii && b.ascii
  unicode := a.unicode && b.unicode
  locale := a.locale && b.locale
  template := a.template && b.template

def diff (a b : Flags) : Flags where
  ignoreCase := a.ignoreCase && !b.ignoreCase
  multiline := a.multiline && !b.multiline
  dotAll := a.dotAll && !b.dotAll
  verbose := a.verbose && !b.verbose
  ascii := a.ascii && !b.ascii
  unicode := a.unicode && !b.unicode
  locale := a.locale && !b.locale
  template := a.template && !b.template

def isEmpty (a : Flags) : Bool := a == {}

/-- The flags that choose a character set; at most one of them makes sense at a time. -/
def choosesCharacterSet (a : Flags) : Bool := a.ascii || a.unicode || a.locale

/-- Whether more than one character set is chosen. -/
def choosesSeveral (a : Flags) : Bool :=
  (a.ascii && a.unicode) || (a.ascii && a.locale) || (a.unicode && a.locale)

/-- The flags inside a group that switches `on` and `off`; a chosen character set replaces the one
in force. -/
def within (a on off : Flags) : Flags :=
  let kept := if on.choosesCharacterSet then
      a.diff { ascii := true, unicode := true, locale := true } else a
  (kept.union on).diff off

def caseRule (a : Flags) : CaseRule :=
  if !a.ignoreCase then .exact else if a.ascii then .ignoredInAscii else .ignored

end Flags

end Foldline.Pattern
