/-! # Control sequences of terminals

Output that does not go to a terminal leaves control sequences out. A control sequence is an escape
character and a bracket, then parameter bytes, then intermediate bytes, then one final byte. Line
ends of the printed text are LF; a CR that stands alone stays. -/

namespace Foldline.Text

def isParameterByte (c : Char) : Bool := '0' ≤ c && c ≤ '?'

def isIntermediateByte (c : Char) : Bool := ' ' ≤ c && c ≤ '/'

def isFinalByte (c : Char) : Bool := '@' ≤ c && c ≤ '~'

/-- What follows a control sequence at the front of a text, if there is one. -/
def afterSequence? : List Char → Option (List Char)
  | '\x1b' :: '[' :: rest =>
      match (rest.dropWhile isParameterByte).dropWhile isIntermediateByte with
      | c :: after => if isFinalByte c then some after else none
      | [] => none
  | _ => none

/-- Leave out control sequences; `n` bounds the number of rounds. -/
def dropSequencesWithin : Nat → List Char → List Char
  | 0, s => s
  | _ + 1, [] => []
  | n + 1, c :: rest =>
      match afterSequence? (c :: rest) with
      | some after => dropSequencesWithin n after
      | none => c :: dropSequencesWithin n rest

/-- Write every CRLF as LF. -/
def shortenLineEnds : List Char → List Char
  | [] => []
  | '\r' :: '\n' :: rest => '\n' :: shortenLineEnds rest
  | c :: rest => c :: shortenLineEnds rest

/-- A text as it is printed. -/
def printed (s : String) : String :=
  String.ofList (shortenLineEnds (dropSequencesWithin (s.length + 1) s.toList))

end Foldline.Text
