import Foldline.Line
import Foldline.Text.Numeral

/-! # Block regions

One walk over a document finds the style blocks and their top-level keys. A block opens on a marker
line and closes on the next marker line, on the first terminator line, on the first non-blank line
that is not deeper than its marker, or at the end of the document. While a block is open its key
lines are kept as candidates; when it closes, the candidates at the least column are its keys.

The walk is a fold of three operations on its state: `enter`, `note` and `close`. -/

namespace Foldline

/-- A style block: the line of its marker, the line that closed it, the column of the marker and the
lines of its top-level keys. -/
structure Region where
  start : Int
  stop : Int
  column : Int
  keyLines : List Int
  deriving DecidableEq, Repr

/-- A remark on a block whose keys are indented with both tabs and spaces. -/
structure Warning where
  /-- The line of the block's marker. -/
  start : Int
  deriving DecidableEq, Repr

def Warning.message (w : Warning) : String :=
  s!"Warning: block at line {w.start + 1} mixes tabs and spaces; top-level keys may be inaccurate"

namespace Scan

/-- Whether a walk stands inside a block. -/
inductive State where
  | outside
  | inside
  deriving DecidableEq, Repr

/-- A key line of the open block. -/
structure Candidate where
  line : Int
  column : Int
  deriving DecidableEq, Repr

/-- What a walk remembers of the open block. -/
structure Context where
  state : State := .outside
  start : Option Int := none
  column : Int := 0
  candidates : List Candidate := []
  deriving DecidableEq, Repr

/-- Why a walk cannot go on: a line cannot be classified, a candidate's line cannot be found, or the
number of a line is too long for a warning. -/
inductive Fault where
  | line (e : Line.Fault)
  | index (e : Document.IndexFault)
  | tooManyDigits
  deriving DecidableEq, Repr

def Fault.message : Fault → String
  | .line e => e.message
  | .index e => e.message
  | .tooManyDigits => "Exceeds the limit (4300 digits) for integer string conversion; " ++
      "use sys.set_int_max_str_digits() to increase the limit"

/-- The least column of some candidates. -/
def leastColumn? (candidates : List Candidate) : Option Int := (candidates.map (·.column)).min?

/-- The lines of the candidates at the least column, in order. -/
def topLevel (candidates : List Candidate) : List Int :=
  match leastColumn? candidates with
  | some least => (candidates.filter fun c => c.column == least).map (·.line)
  | none => []

/-- The first `n` characters of a line, or, for a negative `n`, all but the last `-n`. -/
def leading (n : Int) (line : Line) : List Char :=
  if 0 ≤ n then line.take n.toNat else line.take (line.length - n.natAbs)

/-- The characters in front of the candidates' columns. -/
def leadings (d : Document) : List Candidate → Except Fault (List Char)
  | [] => .ok []
  | c :: rest =>
      match d.lineAt c.line with
      | .ok line => (leadings d rest).map (leading c.column line ++ ·)
      | .error e => .error (.index e)

/-- Whether candidates are indented with spaces and with tabs. -/
def isMixed (d : Document) (candidates : List Candidate) : Except Fault Bool :=
  (leadings d candidates).map fun cs => cs.contains ' ' && cs.contains '\t'

end Scan

/-- The state of a walk: the open block, the regions found and the warnings given. -/
structure Scan where
  context : Scan.Context := {}
  regions : List Region := []
  warnings : List Warning := []
  deriving DecidableEq, Repr

namespace Scan

/-- Open a block; a block that is still open is dropped. -/
def enter (s : Scan) (line column : Int) : Scan :=
  { s with context := { state := .inside, start := some line, column, candidates := [] } }

/-- Keep a candidate. -/
def note (s : Scan) (line column : Int) : Scan :=
  { s with context := { s.context with candidates := s.context.candidates ++ [⟨line, column⟩] } }

/-- A change to the state of a walk that can fail. What was done before a fault stays done. -/
abbrev Action := EStateM Fault Scan

/-- Give a warning, if the number in it can be written. -/
def warn (w : Warning) : Action Unit := do
  unless Text.Numeral.canWrite (w.start + 1) do throw .tooManyDigits
  modify fun s => { s with warnings := s.warnings ++ [w] }

def collect (r : Region) : Action Unit := modify fun s => { s with regions := s.regions ++ [r] }

/-- Forget the open block. -/
def leave : Action Unit := modify fun s =>
  { s with context := { state := .outside, start := none, column := 0, candidates := [] } }

/-- Close the open block, if there is one, at line `stop`. Only a walk that is watched looks for
mixed indentation. -/
def closeBlock (d : Document) (watched : Bool) (stop : Int) : Action Unit := do
  let context := (← get).context
  match context.state, context.start with
  | .inside, some start =>
      if watched then
        if ← ofExcept (isMixed d context.candidates) then warn ⟨start⟩
      collect { start, stop, column := context.column, keyLines := topLevel context.candidates }
      leave
  | _, _ => return

/-- The state after closing, or why closing fails. -/
def close (d : Document) (watched : Bool) (stop : Int) (s : Scan) : Except Fault Scan :=
  match (closeBlock d watched stop).run s with
  | .ok _ t => .ok t
  | .error e _ => .error e

/-- The operations that a walk is made of. -/
inductive Operation where
  | enter (line column : Int)
  | note (line column : Int)
  | close (stop : Int)
  deriving DecidableEq, Repr

/-- Do one operation. -/
def perform (d : Document) (watched : Bool) : Operation → Action Unit
  | .enter line column => modify fun s => s.enter line column
  | .note line column => modify fun s => s.note line column
  | .close stop => closeBlock d watched stop

/-- Take a line of a known kind into account. -/
def step (d : Document) (watched : Bool) (index : Nat) (line : Line) (kind : Line.Kind) (s : Scan) :
    Except Fault Scan :=
  if kind = .marker then
    (s.close d watched index).map fun t => t.enter index line.column
  else if s.context.state ≠ .inside then .ok s
  else if kind = .blank then .ok s
  else if (line.column : Int) ≤ s.context.column ∨ kind = .terminator then s.close d watched index
  else if kind = .key then .ok (s.note index line.column)
  else .ok s

/-- Walk over the lines from `index` on. The state reached is given also when the walk fails. -/
def walk (config : Config) (d : Document) (watched : Bool) : Nat → List Line → Scan →
    Scan × Option Fault
  | _, [], s => (s, none)
  | index, line :: rest, s =>
      match Line.kind config line with
      | .error e => (s, some (.line e))
      | .ok kind =>
          match s.step d watched index line kind with
          | .error e => (s, some e)
          | .ok t => walk config d watched (index + 1) rest t

end Scan

/-- What a walk over a document gives: the regions or a fault, and the warnings either way. -/
structure Survey where
  regions : Except Scan.Fault (List Region)
  warnings : List Warning

namespace Document

/-- Find the style blocks of a document and their top-level keys. -/
def survey (d : Document) (config : Config) (watched : Bool) : Survey :=
  match Scan.walk config d watched 0 d.lines {} with
  | (s, some e) => { regions := .error e, warnings := s.warnings }
  | (s, none) =>
      match s.close d watched d.lineCount with
      | .error e => { regions := .error e, warnings := s.warnings }
      | .ok t => { regions := .ok t.regions, warnings := t.warnings }

/-- The style blocks of a document. -/
def regions (d : Document) (config : Config) : Except Scan.Fault (List Region) :=
  (d.survey config false).regions

/-- The lines of the top-level keys of all blocks. -/
def keyLines (d : Document) (config : Config) : Except Scan.Fault (List Int) :=
  (d.regions config).map fun rs => rs.flatMap (·.keyLines)

/-- The indices, from `index` on, of the lines that open a block. -/
def markerLinesFrom (config : Config) : Nat → List Line → Except Line.Fault (List Int)
  | _, [] => .ok []
  | index, line :: rest =>
      match Line.isMarker config line with
      | .error e => .error e
      | .ok isMarker =>
          (markerLinesFrom config (index + 1) rest).map fun found =>
            if isMarker then (index : Int) :: found else found

/-- The lines that open a block. -/
def markerLines (d : Document) (config : Config) : Except Scan.Fault (List Int) :=
  (markerLinesFrom config 0 d.lines).mapError .line

end Document

end Foldline
