import Foldline.Intent

/-! # How the command is used

The options of the command, its help text and the faults of an invocation. -/

namespace Foldline.Command

/-- The options. -/
inductive Switch where
  | version
  | intent
  | marker
  | maxLineLength
  | format
  | help
  deriving DecidableEq, Repr

namespace Switch

def all : List Switch := [.version, .intent, .marker, .maxLineLength, .format, .help]

def name : Switch → String
  | .version => "--version"
  | .intent => "--intent"
  | .marker => "--marker"
  | .maxLineLength => "--max-line-length"
  | .format => "--format"
  | .help => "--help"

def ofName? (name : String) : Option Switch := all.find? (·.name == name)

def takesValue : Switch → Bool
  | .version => false
  | .help => false
  | _ => true

end Switch

/-- How the result is printed. -/
inductive Format where
  | text
  | json
  deriving DecidableEq, Repr

namespace Format

def all : List Format := [.text, .json]

def name : Format → String
  | .text => "text"
  | .json => "json"

def ofName? (name : String) : Option Format := all.find? (·.name == name)

end Format

/-- The name of the operand. -/
def operandName : String := "FILEPATH"

/-- What is wrong with an invocation. -/
inductive UsageError where
  | unknownOption (name : String) (similar : List String)
  | missingValue (switch : Switch)
  | unwantedValue (switch : Switch)
  | notAChoice (switch : Switch) (value : String) (choices : List String)
  | notAnInteger (switch : Switch) (value : String)
  | noSuchFile (path : String)
  | isADirectory (path : String)
  | missingOperand
  | extraOperands (operands : List String)
  | refused (reason : String)
  deriving DecidableEq, Repr

/-- Names in quotes with commas between them. -/
def quotedList (names : List String) : String := ", ".intercalate (names.map Text.quote)

/-- What to try instead of an unknown option. -/
def suggestion : List String → String
  | [] => ""
  | [name] => s!" Did you mean {Text.quote name}?"
  | names => " (Did you mean one of: " ++ quotedList (names.mergeSort fun a b => !(b < a)) ++ "?)"

namespace UsageError

def message : UsageError → String
  | .unknownOption name similar => s!"No such option {Text.quote name}." ++ suggestion similar
  | .missingValue switch => s!"Option '{switch.name}' requires an argument."
  | .unwantedValue switch => s!"Option '{switch.name}' does not take a value."
  | .notAChoice switch value choices =>
      s!"Invalid value for '{switch.name}': {Text.quote value} is not one of {quotedList choices}."
  | .notAnInteger switch value =>
      s!"Invalid value for '{switch.name}': {Text.quote value} is not a valid integer."
  | .noSuchFile path =>
      s!"Invalid value for '{operandName}': File {Text.quote path} does not exist."
  | .isADirectory path =>
      s!"Invalid value for '{operandName}': File {Text.quote path} is a directory."
  | .missingOperand => s!"Missing argument '{operandName}'."
  | .extraOperands [operand] => s!"Got unexpected extra argument ({operand})"
  | .extraOperands operands =>
      "Got unexpected extra arguments (" ++ " ".intercalate operands ++ ")"
  | .refused reason => s!"Invalid value: {reason}"

/-- Whether the message comes with a reminder of how the command is used. -/
def remindsOfUsage : UsageError → Bool
  | .missingValue _ => false
  | .unwantedValue _ => false
  | _ => true

end UsageError

def usageLine : String := s!"Usage: cli [OPTIONS] {operandName}\n"

/-- The text of a usage error as it is printed. -/
def UsageError.report (e : UsageError) : String :=
  (if e.remindsOfUsage then usageLine ++ "Try 'cli --help' for help.\n\n" else "") ++
    s!"Error: {e.message}\n"

def versionText : String := "0.1.0"

def versionLine : String := s!"cli, version {versionText}\n"

def helpText : String :=
  usageLine ++ "\n".intercalate
    ["",
      "  Entry point for planning a fold or unfold over StyleX blocks.",
      "",
      "  Args:     filepath: Path to the source file to scan.     intent: One of `fold-",
      "  names`, `fold-blocks`, `unfold-names`, `unfold-all`.     markers: Overrides",
      "  for the block marker tokens.     max_line_length: Override for the maximum",
      "  line length.     output_format: `text` prints ``<action> <depth> <lines>``;",
      "  `json`         prints an object with intent, action, depth and lines.",
      "",
      "  Returns:     None.",
      "",
      "  Raises:     click.BadParameter: If the path or configuration overrides are",
      "  invalid.     click.ClickException: If the file is too large, unreadable, or",
      "  contains         an overlong line.",
      "",
      "  Examples:     stylex-fold src/Button.tsx --intent fold-blocks --format json",
      "",
      "Options:",
      "  --version                       Show the version and exit.",
      "  --intent [fold-names|fold-blocks|unfold-names|unfold-all]",
      "                                  Folding command to plan  [default: fold-names]",
      "  --marker TEXT                   Block marker token (repeatable)",
      "  --max-line-length INTEGER       Maximum line length",
      "  --format [text|json]            Output format  [default: text]",
      "  --help                          Show this message and exit.",
      ""]

end Foldline.Command
