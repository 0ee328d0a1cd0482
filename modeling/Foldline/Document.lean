import Foldline.Text.Pieces

/-! # Documents

A document is a list of lines without line ends. Lines end at CRLF, CR or LF. The column of a line
is the number of spaces and tabs in front of its content. -/

namespace Foldline

/-- One line of text without its line end. -/
abbrev Line := List Char

namespace Line

/-- Spaces and tabs are indentation; any other character is content. -/
def isIndent (c : Char) : Bool := c == ' ' || c == '\t'

/-- The column of the first character that is not indentation. -/
def column (line : Line) : Nat := (line.takeWhile isIndent).length

end Line

/-- The lines of a source text. -/
structure Document where
  lines : List Line := []
  deriving DecidableEq

namespace Document

/-- The pieces between line ends; `piece` is the current one, last character first. -/
def piecesFrom (piece : Line) : List Char → List Line
  | [] => [piece.reverse]
  | '\r' :: '\n' :: rest => piece.reverse :: piecesFrom [] rest
  | '\r' :: rest => piece.reverse :: piecesFrom [] rest
  | '\n' :: rest => piece.reverse :: piecesFrom [] rest
  | c :: rest => piecesFrom (c :: piece) rest

/-- A line end at the very end of a text opens no further line. -/
def dropLastEmpty (pieces : List Line) : List Line :=
  if pieces.getLast? == some [] then pieces.dropLast else pieces

def ofText (text : List Char) : Document := ⟨dropLastEmpty (piecesFrom [] text)⟩

/-- Take one line end off a line that may still carry it. -/
def dropLineEnd (line : Line) : Line :=
  Text.dropSuffix ['\r'] (Text.dropSuffix ['\n'] line)

def ofRawLines (lines : List Line) : Document := ⟨lines.map dropLineEnd⟩

/-- Write every line end as LF. -/
def unifyLineEnds : List Char → List Char
  | [] => []
  | '\r' :: '\n' :: rest => '\n' :: unifyLineEnds rest
  | '\r' :: rest => '\n' :: unifyLineEnds rest
  | c :: rest => c :: unifyLineEnds rest

def lineCount (d : Document) : Nat := d.lines.length

/-- Why an index leads to no line: there is none, or the number is too large to count lines with. -/
inductive IndexFault where
  | noSuchLine
  | notAnIndex
  deriving DecidableEq, Repr

def IndexFault.message : IndexFault → String
  | .noSuchLine => "tuple index out of range"
  | .notAnIndex => "cannot fit 'int' into an index-sized integer"

/-- How far indices go, in either direction. -/
def indexLimit : Nat := 0x8000000000000000

/-- Whether a number is small enough for an index. -/
def isIndex (n : Int) : Bool := -(indexLimit : Int) ≤ n && n < (indexLimit : Int)

/-- The line at an index from the start, or, for a negative index, from the end. -/
def lineAt (d : Document) (index : Int) : Except IndexFault Line :=
  let place := if 0 ≤ index then index else index + d.lineCount
  if !isIndex index then .error .notAnIndex
  else if place < 0 then .error .noSuchLine
  else
    match d.lines[place.toNat]? with
    | some line => .ok line
    | none => .error .noSuchLine

def columnAt (d : Document) (index : Int) : Except IndexFault Nat :=
  (d.lineAt index).map Line.column

/-- The one-based number of the first line longer than `limit`. -/
def firstLongLine? (d : Document) (limit : Int) : Option Nat :=
  (d.lines.findIdx? fun line => limit < (line.length : Int)).map (· + 1)

/-- The message about a line that is longer than a limit. -/
def longLineMessage (line : Nat) (limit : Int) : String :=
  s!"Line {line} exceeds maximum allowed length of {limit} characters"

end Document

end Foldline
