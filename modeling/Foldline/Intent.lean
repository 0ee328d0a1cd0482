import Foldline.Region
import Foldline.Text.Quoted

/-! # Intents

A user asks for one of four things. An intent is planned on a document: it gives a request, which
says what to do with which lines and how deep, or nothing when there is no line to act on. Applying
an intent hands a request on to the editor as one call. -/

namespace Foldline

/-- What a user can ask for. -/
inductive Intent where
  | foldNames
  | foldBlocks
  | unfoldNames
  | unfoldAll
  deriving DecidableEq, Repr

/-- What an editor can do with a region. -/
inductive Action where
  | fold
  | unfold
  deriving DecidableEq, Repr

def Action.name : Action → String
  | .fold => "fold"
  | .unfold => "unfold"

/-- The depth of one level. -/
def singleLevel : Nat := 1

/-- A depth that reaches every level. -/
def unboundedDepth : Nat := 100

namespace Intent

def all : List Intent := [.foldNames, .foldBlocks, .unfoldNames, .unfoldAll]

def name : Intent → String
  | .foldNames => "fold-names"
  | .foldBlocks => "fold-blocks"
  | .unfoldNames => "unfold-names"
  | .unfoldAll => "unfold-all"

def ofName? (name : String) : Option Intent := all.find? (·.name == name)

def action : Intent → Action
  | .foldNames => .fold
  | .foldBlocks => .fold
  | .unfoldNames => .unfold
  | .unfoldAll => .unfold

def depth : Intent → Nat
  | .unfoldAll => unboundedDepth
  | _ => singleLevel

end Intent

/-- What an editor is asked to do. The lines are in ascending order. -/
structure Request where
  intent : Intent
  action : Action
  depth : Nat
  lines : List Int
  deriving DecidableEq, Repr

/-- A request, or none, or a fault, with the warnings that planning gave. -/
structure Plan where
  outcome : Except Scan.Fault (Option Request)
  warnings : List Warning

namespace Intent

/-- The request for some lines; there is none for no lines. -/
def request? (i : Intent) (lines : List Int) : Option Request :=
  if lines.isEmpty then none
  else some { intent := i, action := i.action, depth := i.depth, lines }

/-- Plan an intent on a document, if there is one. Only the search for keys can warn, and only when
watched. -/
def plan (i : Intent) (document : Option Document) (config : Config) (watched : Bool) : Plan :=
  match document with
  | none => { outcome := .ok none, warnings := [] }
  | some d =>
      if i = .foldNames then
        let survey := d.survey config watched
        { outcome := survey.regions.map fun rs => i.request? (rs.flatMap (·.keyLines))
          warnings := survey.warnings }
      else { outcome := (d.markerLines config).map i.request?, warnings := [] }

end Intent

/-- A call to the editor. -/
structure Call where
  action : Action
  lines : List Int
  levels : Nat
  deriving DecidableEq, Repr

def Request.call (r : Request) : Call := ⟨r.action, r.lines, r.depth⟩

namespace Session

/-- What a user does: plan an intent, or plan and apply it. -/
structure Step where
  intent : Intent
  applied : Bool
  watched : Bool
  deriving DecidableEq, Repr

end Session

/-- The calls and warnings of the steps so far. -/
structure Session where
  calls : List Call := []
  warnings : List Warning := []
  deriving DecidableEq, Repr

namespace Session

/-- The calls that a planned step makes: one if it applies a request, else none. -/
def callsOf (applied : Bool) : Except Scan.Fault (Option Request) → List Call
  | .ok (some r) => if applied then [r.call] else []
  | _ => []

/-- Carry out one step. -/
def advance (document : Option Document) (config : Config) (s : Session) (step : Step) :
    Session × Except Scan.Fault (Option Request) :=
  let plan := step.intent.plan document config step.watched
  ({ calls := s.calls ++ callsOf step.applied plan.outcome
     warnings := s.warnings ++ plan.warnings }, plan.outcome)

/-- Carry out steps one after the other. -/
def runSteps (document : Option Document) (config : Config) : Session → List Step → Session
  | s, [] => s
  | s, step :: rest => runSteps document config (s.advance document config step).1 rest

end Session

/-- The message about a text that names no intent. -/
def Intent.unknownMessage (name : String) : String :=
  s!"{Text.quote name} is not a valid FoldIntent"

end Foldline
