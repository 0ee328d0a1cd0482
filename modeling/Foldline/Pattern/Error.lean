import Foldline.Text.Quoted

/-! # Faults of a pattern

What can be wrong with the text of a pattern, and how it is reported. Most faults have a place in
the text; the faults found after reading, and the limits, have none. -/

namespace Foldline.Pattern

/-- A fault in the text of a pattern. -/
inductive Problem where
  | danglingBackslash
  | badEscape (text : List Char)
  | incompleteEscape (text : List Char)
  | octalTooLarge (text : List Char)
  | missingBrace
  | unknownCharacterName (name : List Char)
  | missingName (what : String)
  | unterminatedName (mark : Char)
  | badGroupName (name : List Char)
  | unknownGroupName (name : List Char)
  | repeatedGroupName (name : List Char) (group earlier : Nat)
  | openGroup
  | groupOfSameLookbehind
  | invalidGroup (group : Nat)
  | badGroupNumber
  | unterminatedSet
  | badRange (low high : List Char)
  | leastAboveMost
  | nothingToRepeat
  | multipleRepeat
  | unexpectedEnd
  | unknownExtension (text : List Char)
  | unterminatedComment
  | unterminatedGroup
  | unbalancedParenthesis
  | tooManyBranches
  | lateGlobalFlags
  | missingFlagEnd
  | missingFlag
  | missingColon
  | unknownFlag
  | localeFlag
  | incompatibleFlags
  | globalFlagOn
  | globalFlagOff
  | characterSetFlagOff
  | flagOnAndOff
  | lookbehindWidth
  | repetitionInTemplate (operator : String)
  deriving DecidableEq, Repr

def Problem.text : Problem → String
  | .danglingBackslash => "bad escape (end of pattern)"
  | .badEscape t => s!"bad escape {String.ofList t}"
  | .incompleteEscape t => s!"incomplete escape {String.ofList t}"
  | .octalTooLarge t => s!"octal escape value {String.ofList t} outside of range 0-0o377"
  | .missingBrace => "missing \x7b"
  | .unknownCharacterName n => s!"undefined character name {String.ofList (Text.quoted n)}"
  | .missingName what => s!"missing {what}"
  | .unterminatedName mark => s!"missing {mark}, unterminated name"
  | .badGroupName n => s!"bad character in group name {String.ofList (Text.quoted n)}"
  | .unknownGroupName n => s!"unknown group name {String.ofList (Text.quoted n)}"
  | .repeatedGroupName n group earlier =>
      s!"redefinition of group name {String.ofList (Text.quoted n)} as group {group}; " ++
        s!"was group {earlier}"
  | .openGroup => "cannot refer to an open group"
  | .groupOfSameLookbehind => "cannot refer to group defined in the same lookbehind subpattern"
  | .invalidGroup group => s!"invalid group reference {group}"
  | .badGroupNumber => "bad group number"
  | .unterminatedSet => "unterminated character set"
  | .badRange low high => s!"bad character range {String.ofList low}-{String.ofList high}"
  | .leastAboveMost => "min repeat greater than max repeat"
  | .nothingToRepeat => "nothing to repeat"
  | .multipleRepeat => "multiple repeat"
  | .unexpectedEnd => "unexpected end of pattern"
  | .unknownExtension t => s!"unknown extension {String.ofList t}"
  | .unterminatedComment => "missing ), unterminated comment"
  | .unterminatedGroup => "missing ), unterminated subpattern"
  | .unbalancedParenthesis => "unbalanced parenthesis"
  | .tooManyBranches => "conditional backref with more than two branches"
  | .lateGlobalFlags => "global flags not at the start of the expression"
  | .missingFlagEnd => "missing -, : or )"
  | .missingFlag => "missing flag"
  | .missingColon => "missing :"
  | .unknownFlag => "unknown flag"
  | .localeFlag => "bad inline flags: cannot use 'L' flag with a str pattern"
  | .incompatibleFlags => "bad inline flags: flags 'a', 'u' and 'L' are incompatible"
  | .globalFlagOn => "bad inline flags: cannot turn on global flag"
  | .globalFlagOff => "bad inline flags: cannot turn off global flag"
  | .characterSetFlagOff => "bad inline flags: cannot turn off flags 'a', 'u' and 'L'"
  | .flagOnAndOff => "bad inline flags: flag turned on and off"
  | .lookbehindWidth => "look-behind requires fixed-width pattern"
  | .repetitionInTemplate operator => s!"internal: unsupported template operator {operator}"

/-- A place in the text of a pattern. -/
structure Place where
  offset : Nat
  line : Nat
  column : Nat
  severalLines : Bool
  deriving DecidableEq, Repr

/-- The place of the character at `offset`; lines and columns count from one. -/
def Place.of (source : List Char) (offset : Nat) : Place :=
  let before := source.take offset
  { offset
    line := before.count '\n' + 1
    column := (before.reverse.takeWhile (· != '\n')).length + 1
    severalLines := source.contains '\n' }

/-- The line and column are given when the text has more than one line. -/
def Place.text (p : Place) : String :=
  if p.severalLines then s!" at position {p.offset} (line {p.line}, column {p.column})"
  else s!" at position {p.offset}"

/-- Why a text is no pattern: it is malformed, or it asks for more than can be counted, or its
groups are nested deeper than there is room for. -/
inductive Error where
  | malformed (problem : Problem) (place : Option Place)
  | repetitionTooLarge
  | tooManyDigits (count : Nat)
  | clashingCharacterSets
  | lookbehindTooFar
  | tooDeep
  deriving DecidableEq, Repr

/-- Whether the text itself is at fault, and no limit. -/
def Error.isMalformed : Error → Bool
  | .malformed .. => true
  | _ => false

def Error.message : Error → String
  | .malformed problem place => problem.text ++ (place.map Place.text).getD ""
  | .repetitionTooLarge => "the repetition number is too large"
  | .tooManyDigits count =>
      "Exceeds the limit (4300 digits) for integer string conversion: value has " ++
        s!"{count} digits; use sys.set_int_max_str_digits() to increase the limit"
  | .clashingCharacterSets => "ASCII and UNICODE flags are incompatible"
  | .lookbehindTooFar => "invalid SRE code"
  | .tooDeep => "maximum recursion depth exceeded"

end Foldline.Pattern
