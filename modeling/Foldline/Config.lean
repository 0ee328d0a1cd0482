import Foldline.Value

/-! # Settings

The seven settings of a scan. A setting can hold any value; `Config.normalize` brings the four
settings that are sequences into one shape, and the checks in `Foldline.Config.Check` say which
values make sense. -/

namespace Foldline

/-- The settings by name. -/
inductive Field where
  | markerTokens
  | terminatorTokens
  | terminatorPrefixes
  | keyPattern
  | extensions
  | maxFileSize
  | maxLineLength
  deriving DecidableEq, Repr

namespace Field

def all : List Field :=
  [.markerTokens, .terminatorTokens, .terminatorPrefixes, .keyPattern, .extensions, .maxFileSize,
    .maxLineLength]

def name : Field → String
  | .markerTokens => "marker_tokens"
  | .terminatorTokens => "terminator_tokens"
  | .terminatorPrefixes => "terminator_prefixes"
  | .keyPattern => "key_pattern"
  | .extensions => "extensions"
  | .maxFileSize => "max_file_size"
  | .maxLineLength => "max_line_length"

def ofName? (name : String) : Option Field := all.find? (·.name == name)

end Field

namespace Config

/-- Tokens that open a block in a line that holds one of them. -/
def defaultMarkers : List String := ["stylex.create", "stylex.keyframes"]

/-- Suffixes of the files that are scanned. -/
def defaultExtensions : List String :=
  [".js", ".jsx", ".ts", ".tsx", ".mjs", ".cjs", ".mts", ".cts"]

/-- A name, quoted or not, a colon, an optional arrow function head, and an opening brace. -/
def defaultKeyPattern : String :=
  "^['\"]?[^'\":\\s]+['\"]?\\s*:\\s*(\\(.*\\)\\s*=>\\s*)?\\(?\\\x7b"

/-- Ten mebibytes. -/
def defaultMaxFileSize : Int := 10485760

def defaultMaxLineLength : Int := 10000

end Config

/-- The settings of a scan. -/
structure Config where
  /-- Texts that open a block. -/
  markerTokens : Value := .texts Config.defaultMarkers
  /-- Trimmed lines that close a block. -/
  terminatorTokens : Value := .texts ["\x7d"]
  /-- Beginnings of trimmed lines that close a block. -/
  terminatorPrefixes : Value := .texts ["\x7d);"]
  /-- The pattern of a trimmed line that opens a nested body. -/
  keyPattern : Value := .text Config.defaultKeyPattern
  /-- Accepted file suffixes. -/
  extensions : Value := .texts Config.defaultExtensions
  /-- The size in bytes up to which files are scanned. -/
  maxFileSize : Value := .int Config.defaultMaxFileSize
  /-- The length in characters up to which lines are accepted. -/
  maxLineLength : Value := .int Config.defaultMaxLineLength

namespace Config

def get (c : Config) : Field → Value
  | .markerTokens => c.markerTokens
  | .terminatorTokens => c.terminatorTokens
  | .terminatorPrefixes => c.terminatorPrefixes
  | .keyPattern => c.keyPattern
  | .extensions => c.extensions
  | .maxFileSize => c.maxFileSize
  | .maxLineLength => c.maxLineLength

def set (c : Config) (field : Field) (v : Value) : Config :=
  match field with
  | .markerTokens => { c with markerTokens := v }
  | .terminatorTokens => { c with terminatorTokens := v }
  | .terminatorPrefixes => { c with terminatorPrefixes := v }
  | .keyPattern => { c with keyPattern := v }
  | .extensions => { c with extensions := v }
  | .maxFileSize => { c with maxFileSize := v }
  | .maxLineLength => { c with maxLineLength := v }

/-- A bare text becomes a tuple of one, a list the tuple of its items. -/
def toTuple : Value → Value
  | .text s => .tuple [.text s]
  | .list items => .tuple items
  | v => v

/-- Whether `toTuple` leaves a value as it is. -/
def isSettled : Value → Bool
  | .text _ => false
  | .list _ => false
  | _ => true

/-- Bring the sequence settings into the shape of tuples. -/
def normalize (c : Config) : Config :=
  { c with
    markerTokens := toTuple c.markerTokens
    terminatorTokens := toTuple c.terminatorTokens
    terminatorPrefixes := toTuple c.terminatorPrefixes
    extensions := toTuple c.extensions }

/-- Whether there is nothing for `normalize` to do. -/
def isNormal (c : Config) : Bool :=
  isSettled c.markerTokens && isSettled c.terminatorTokens && isSettled c.terminatorPrefixes &&
    isSettled c.extensions

end Config

end Foldline
