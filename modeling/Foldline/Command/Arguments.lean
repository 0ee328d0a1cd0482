import Foldline.Command.Usage
import Foldline.Text.Numeral
import Foldline.Text.Similarity

/-! # Arguments

Options and operands can stand in any order; a double dash ends the options. An option that takes a
value takes the next argument whatever it looks like. Values are checked in the order in which their
options are first given. -/

namespace Foldline.Command

/-- The options and operands of an invocation in order. -/
structure Arguments where
  switches : List (Switch × String) := []
  operands : List String := []
  deriving DecidableEq, Repr

/-- Put an option in front. -/
def Arguments.withSwitch (switch : Switch) (value : String) (a : Arguments) : Arguments :=
  { a with switches := (switch, value) :: a.switches }

/-- Put an operand in front. -/
def Arguments.withOperand (operand : String) (a : Arguments) : Arguments :=
  { a with operands := operand :: a.operands }

/-- Whether an argument is an option. -/
def isOption (argument : List Char) : Bool := argument.head? == some '-' && 1 < argument.length

/-- The name of an option, and the value after an equals sign if there is one. -/
def splitOption (argument : List Char) : String × Option String :=
  let name := argument.takeWhile (· != '=')
  match argument.drop name.length with
  | _ :: value => (String.ofList name, some (String.ofList value))
  | [] => (String.ofList name, none)

/-- The fault of an option that does not exist. One with a single dash is read as a row of letters,
of which the first is at fault. -/
def unknownOption (argument : List Char) (name : String) : UsageError :=
  if argument.take 2 == ['-', '-'] then
    .unknownOption name (Text.closeTexts name.toList (Switch.all.map Switch.name))
  else .unknownOption (String.ofList (argument.take 2)) []

/-- Read arguments. -/
def Arguments.read : List String → Except UsageError Arguments
  | [] => .ok {}
  | argument :: rest =>
      if argument == "--" then .ok { operands := rest }
      else if !isOption argument.toList then
        match Arguments.read rest with
        | .ok a => .ok (a.withOperand argument)
        | .error e => .error e
      else
        let (name, given) := splitOption argument.toList
        match Switch.ofName? name with
        | none => .error (unknownOption argument.toList name)
        | some switch =>
            match switch.takesValue, given with
            | false, some _ => .error (.unwantedValue switch)
            | false, none => (Arguments.read rest).map (·.withSwitch switch "")
            | true, some value => (Arguments.read rest).map (·.withSwitch switch value)
            | true, none =>
                match rest with
                | [] => .error (.missingValue switch)
                | value :: rest => (Arguments.read rest).map (·.withSwitch switch value)

namespace Arguments

/-- The value of an option that was given last. -/
def lastValue? (a : Arguments) (switch : Switch) : Option String :=
  (a.switches.reverse.lookup switch)

/-- The values of an option in order. -/
def values (a : Arguments) (switch : Switch) : List String :=
  (a.switches.filter (·.1 == switch)).map (·.2)

/-- The first of the options that print something and end the command. -/
def eager? (a : Arguments) : Option Switch :=
  (a.switches.find? fun s => s.1 == .help || s.1 == .version).map (·.1)

/-- The options given, each once. -/
def given (a : Arguments) : List Switch := (a.switches.map (·.1)).eraseDups

/-- Check the value of one option. -/
def checkValue (a : Arguments) (switch : Switch) : Except UsageError Unit :=
  match switch, a.lastValue? switch with
  | .intent, some v =>
      if (Intent.ofName? v).isSome then .ok ()
      else .error (.notAChoice .intent v (Intent.all.map Intent.name))
  | .format, some v =>
      if (Format.ofName? v).isSome then .ok ()
      else .error (.notAChoice .format v (Format.all.map Format.name))
  | .maxLineLength, some v =>
      if (Text.Numeral.read? v.toList).isSome then .ok ()
      else .error (.notAnInteger .maxLineLength v)
  | _, _ => .ok ()

/-- Check the values of all options in order. -/
def checkValues (a : Arguments) : Except UsageError Unit := a.given.forM a.checkValue

def intent (a : Arguments) : Intent :=
  ((a.lastValue? .intent).bind Intent.ofName?).getD .foldNames

def format (a : Arguments) : Format :=
  ((a.lastValue? .format).bind Format.ofName?).getD .text

def maxLineLength? (a : Arguments) : Option Int :=
  (a.lastValue? .maxLineLength).bind fun v => Text.Numeral.read? v.toList

def markers (a : Arguments) : List String := a.values .marker

end Arguments

end Foldline.Command
