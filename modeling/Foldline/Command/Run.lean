import Foldline.Command.Arguments
import Foldline.Config.Search
import Foldline.Source.Accept
import Foldline.Source.Read
import Foldline.Source.SizeLimit
import Foldline.Text.Terminal

/-! # Running the command

The command reads its arguments, finds the settings of the source file, accepts and reads the file,
plans the intent and prints the request. Each stage can end it with a message of its own. -/

namespace Foldline.Command

/-- What the user asks for. -/
structure Invocation where
  file : String
  intent : Intent
  markers : List String
  maxLineLength : Option Int
  format : Format
  deriving DecidableEq, Repr

/-- A fault that the command has no message for. -/
inductive Failure where
  | nulByte
  | path (e : Source.PathError)
  | settings (e : Config.SearchError)
  | reading (e : Source.ReadError)
  | scan (e : Scan.Fault)
  deriving DecidableEq, Repr

def Failure.message : Failure → String
  | .nulByte => "embedded null byte"
  | .path e => e.message
  | .settings e => e.message
  | .reading e => e.message
  | .scan e => e.message

/-- How a command ends before its work is done. -/
inductive Stop where
  | usage (e : UsageError)
  | refused (reason : String)
  | failed (e : Failure)
  deriving DecidableEq, Repr

/-- What a command leaves behind. -/
structure Outcome where
  exitCode : Nat
  out : String := ""
  err : String := ""
  failure : Option Failure := none
  deriving DecidableEq, Repr

def Stop.outcome : Stop → Outcome
  | .usage e => { exitCode := 2, err := Text.printed e.report }
  | .refused reason => { exitCode := 1, err := Text.printed s!"Error: {reason}\n" }
  | .failed e => { exitCode := 1, failure := some e }

/-- Check that the operand as it is written leads to something that is no directory. -/
def checkFile (h : Host) (file : String) : Except Stop Unit :=
  if file.toList.contains '\x00' then .error (.failed .nulByte)
  else
    match h.target file.toList with
    | .error _ => .error (.usage (.noSuchFile file))
    | .ok .directory => .error (.usage (.isADirectory file))
    | .ok _ => .ok ()

/-- Check the arguments and put them together. -/
def interpret (h : Host) (a : Arguments) : Except Stop Invocation := do
  a.checkValues.mapError .usage
  match a.operands with
  | [] => .error (.usage .missingOperand)
  | file :: extra =>
      checkFile h file
      if !extra.isEmpty then .error (.usage (.extraOperands extra))
      return {
        file
        intent := a.intent
        markers := a.markers
        maxLineLength := a.maxLineLength?
        format := a.format }

/-- The overrides that an invocation makes. -/
def overrides (i : Invocation) : Config.Entries :=
  [(Field.markerTokens.name, .texts i.markers),
    (Field.maxLineLength.name, (i.maxLineLength.map Value.int).getD .null)]

/-- The directory whose settings count for a file. -/
def settingsStart (h : Host) (file : String) : Except Stop Path := do
  let written := Path.ofText file.toList
  let some path := h.expandHome? written | .error (.failed (.path (.ofHome written)))
  let resolved ← (h.resolve false path).mapError fun e => .failed (.settings (.ofResolve e))
  return resolved.parent

def Stop.ofSearch : Config.SearchError → Stop
  | .refused e => .usage (.refused e.message)
  | e => .failed (.settings e)

/-- The settings of an invocation. -/
def settings (h : Host) (i : Invocation) : Except Stop Config := do
  let start ← settingsStart h i.file
  (Config.build h start (overrides i)).mapError .ofSearch

/-- Faults of a path that the command reports are those that say what is wrong with the path. -/
def Stop.ofPath (e : Source.PathError) : Stop :=
  match e with
  | .unknownHome => .failed (.path e)
  | .linkLoop _ => .failed (.path e)
  | .tooDeep => .failed (.path e)
  | .unreachable _ => .failed (.path e)
  | .suffixesNotACollection _ => .failed (.path e)
  | .suffixNotText _ => .failed (.path e)
  | _ => .usage (.refused e.message)

def Stop.ofSize : Source.SizeError → Stop
  | .nulByte => .failed .nulByte
  | e => .refused e.message

def Stop.ofRead : Source.ReadError → Stop
  | .patternLimit e => .failed (.reading (.patternLimit e))
  | .nulByte => .failed .nulByte
  | e => .refused e.message

/-- The default limit on file sizes that settings give. -/
def defaultSizeLimit (c : Config) : Int :=
  match c.maxFileSize with
  | .int n => n
  | _ => 0

/-- The source file of an invocation and its document. -/
def source (h : Host) (i : Invocation) (c : Config) : Except Stop Document := do
  let path ← (Source.accept h i.file.toList c.extensions).mapError .ofPath
  let limit ← (Source.sizeLimit h (defaultSizeLimit c)).mapError fun e => .refused e.message
  (Source.checkSize h path limit).mapError .ofSize
  (Source.readDocument h path c none).mapError .ofRead

/-- Numbers with a gap between them. -/
def numberList (gap : String) (numbers : List Int) : String :=
  gap.intercalate (numbers.map fun n => s!"{n}")

/-- A request, or the lack of one, as a line of text. -/
def renderText : Option Request → String
  | none => ""
  | some r => s!"{r.action.name} {r.depth} " ++ numberList "," r.lines ++ "\n"

/-- A request, or the lack of one, as an object. -/
def renderJson (intent : Intent) (request : Option Request) : String :=
  let parts :=
    match request with
    | none => "\"action\": null, \"depth\": null, \"lines\": []"
    | some r =>
        s!"\"action\": \"{r.action.name}\", \"depth\": {r.depth}, \"lines\": [" ++
          numberList ", " r.lines ++ "]"
  s!"\x7b\"intent\": \"{intent.name}\", " ++ parts ++ "\x7d\n"

def render (format : Format) (intent : Intent) (request : Option Request) : String :=
  match format with
  | .text => renderText request
  | .json => renderJson intent request

/-- What is printed about warnings. -/
def warningText (warnings : List Warning) : String :=
  Text.printed (String.join (warnings.map fun w => s!"{w.message}\n"))

/-- The settings and the document of an invocation. -/
def prepare (h : Host) (i : Invocation) : Except Stop (Config × Document) := do
  let c ← settings h i
  let d ← source h i c
  return (c, d)

/-- Plan the intent and print the request. -/
def carryOut (h : Host) (i : Invocation) : Outcome :=
  match prepare h i with
  | .error stop => stop.outcome
  | .ok (c, d) =>
      let plan := i.intent.plan (some d) c true
      match plan.outcome with
      | .error e => { exitCode := 1, err := warningText plan.warnings, failure := some (.scan e) }
      | .ok request =>
          { exitCode := 0, out := render i.format i.intent request
            err := warningText plan.warnings }

/-- Run the command on its arguments. -/
def run (h : Host) (arguments : List String) : Outcome :=
  match Arguments.read arguments with
  | .error e => (Stop.usage e).outcome
  | .ok a =>
      match a.eager? with
      | some .help => { exitCode := 0, out := helpText }
      | some _ => { exitCode := 0, out := versionLine }
      | none =>
          match interpret h a with
          | .error stop => stop.outcome
          | .ok i => carryOut h i

end Foldline.Command
