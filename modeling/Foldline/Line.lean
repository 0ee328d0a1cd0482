import Foldline.Config
import Foldline.Document
import Foldline.Pattern.Match
import Foldline.Pattern.Reader
import Foldline.Text.Blank

/-! # Kinds of lines

What one line is, by itself and without regard to the block it stands in: blank, the opening of a
block, the close of one, a key that opens a nested body, or anything else. Settings that hold values
of the wrong kind make a test fail, but only if the test gets to them. -/

namespace Foldline.Line

/-- What a line is. -/
inductive Kind where
  | blank
  | marker
  | key
  | terminator
  | other
  deriving DecidableEq, Repr

/-- A setting that cannot be used as the test of a line needs it. -/
inductive Fault where
  | notACollection (kind : String)
  | notAContainer (kind : String)
  | markerNotText (kind : String)
  | beginningNotText (kind : String)
  | beginningPartNotText (kind : String)
  | patternNotAKey (kind : String)
  | patternNotText
  | badPattern (e : Pattern.Error)
  | tornGroup
  deriving DecidableEq, Repr

def Fault.message : Fault → String
  | .notACollection kind => s!"'{kind}' object is not iterable"
  | .notAContainer kind => s!"argument of type '{kind}' is not iterable"
  | .markerNotText kind => s!"'in <string>' requires string as left operand, not {kind}"
  | .beginningNotText kind => s!"startswith first arg must be str or a tuple of str, not {kind}"
  | .beginningPartNotText kind => s!"tuple for startswith must only contain str, not {kind}"
  | .patternNotAKey kind => s!"unhashable type: '{kind}'"
  | .patternNotText => "first argument must be string or compiled pattern"
  | .badPattern e => e.message
  | .tornGroup => "The span of capturing group is wrong, please report a bug for the re module."

def isBlank (line : Line) : Bool := Text.trim line == []

/-- Whether a test holds of some member; members after the first hit are not looked at. -/
def someMember (test : Value → Except Fault Bool) : List Value → Except Fault Bool
  | [] => .ok false
  | v :: rest =>
      match test v with
      | .ok true => .ok true
      | .ok false => someMember test rest
      | .error e => .error e

/-- Whether a test holds of some member of a setting. -/
def someMemberOf (setting : Value) (test : Value → Except Fault Bool) : Except Fault Bool :=
  match setting.members? with
  | some members => someMember test members
  | none => .error (.notACollection setting.kindName)

/-- Whether a marker token stands in the line. -/
def holdsMarker (line : Line) : Value → Except Fault Bool
  | .text token => .ok (Text.occursIn token.toList line)
  | v => .error (.markerNotText v.kindName)

/-- A line opens a block when one of the marker tokens stands anywhere in it. -/
def isMarker (config : Config) (line : Line) : Except Fault Bool :=
  someMemberOf config.markerTokens (holdsMarker line)

/-- Whether the text starts with one of several beginnings. -/
def startsWithSome (text : List Char) : List Value → Except Fault Bool
  | [] => .ok false
  | .text beginning :: rest =>
      if beginning.toList.isPrefixOf text then .ok true else startsWithSome text rest
  | v :: _ => .error (.beginningPartNotText v.kindName)

/-- Whether the text starts with a beginning, or with one of a tuple of them. -/
def startsWith (text : List Char) : Value → Except Fault Bool
  | .text beginning => .ok (beginning.toList.isPrefixOf text)
  | .tuple items => startsWithSome text items
  | v => .error (.beginningNotText v.kindName)

/-- A line closes a block when, trimmed, it is a terminator token or starts with a terminator
beginning. -/
def isTerminator (config : Config) (line : Line) : Except Fault Bool :=
  let trimmed := Text.trim line
  match config.terminatorTokens.holdsText? trimmed with
  | none => .error (.notAContainer config.terminatorTokens.kindName)
  | some true => .ok true
  | some false => someMemberOf config.terminatorPrefixes (startsWith trimmed)

/-- The pattern of key lines. -/
def keyPattern (config : Config) : Except Fault Pattern :=
  match config.keyPattern with
  | .text source =>
      match Pattern.read source.toList with
      | .ok p => .ok p
      | .error e => .error (.badPattern e)
  | v =>
      match v.unkeyable? with
      | some kind => .error (.patternNotAKey kind)
      | none => .error .patternNotText

/-- Whether a pattern matches the start of a text. A match with a group that ends before it starts
is a fault. -/
def matchesStart (p : Pattern) (text : List Char) : Except Fault Bool :=
  match p.outcome text with
  | .matched m => if m.isTorn then .error .tornGroup else .ok true
  | .failed _ => .ok false

/-- A line names a key when the pattern matches the start of the trimmed line. -/
def isKey (config : Config) (line : Line) : Except Fault Bool :=
  match keyPattern config with
  | .ok p => matchesStart p (Text.trim line)
  | .error e => .error e

/-- The character that closes a nested body. -/
def bodyCloser : Char := '\x7d'

/-- A body that closes on the line of its key leaves nothing to fold. -/
def closesBody (line : Line) : Bool := line.contains bodyCloser

/-- The kind of a line: blank before marker, marker before terminator, terminator before key. -/
def kind (config : Config) (line : Line) : Except Fault Kind := do
  if isBlank line then return .blank
  if ← isMarker config line then return .marker
  if ← isTerminator config line then return .terminator
  if (← isKey config line) && !closesBody line then return .key
  return .other

end Foldline.Line
