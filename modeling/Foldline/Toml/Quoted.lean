import Foldline.Toml.Basic

/-! # Texts in TOML

Basic texts have escapes, literal texts have none; both come in a form for one line and a form for
several lines. -/

namespace Foldline.Toml

/-- A character given by `width` hexadecimal digits; surrogates are no characters. -/
def hexChar (width : Nat) (s : List Char) : Reading Char :=
  let digits := s.take width
  let code := digits.foldl (fun n c => 16 * n + hexValue c) 0
  if digits.length == width && digits.all isHexDigit && (code < 0xD800 || 0xE000 ≤ code) &&
      code ≤ 0x10FFFF then
    .ok (Char.ofNat code, s.drop width)
  else refuse

/-- The escapes of one letter. -/
def simpleEscape? : Char → Option Char
  | 'b' => some '\x08'
  | 't' => some '\t'
  | 'n' => some '\n'
  | 'f' => some '\x0c'
  | 'r' => some '\r'
  | '"' => some '"'
  | '\\' => some '\\'
  | _ => none

/-- A backslash at the end of a line takes the line end and all blanks after it away. -/
def lineContinuation (s : List Char) : Reading (List Char) :=
  match skipSpace s with
  | '\n' :: rest => .ok ([], rest.dropWhile isSpaceOrBreak)
  | [] => .ok ([], [])
  | _ :: _ => refuse

/-- What an escape stands for, from the character after the backslash on. -/
def escape (multiline : Bool) : List Char → Reading (List Char)
  | [] => refuse
  | c :: rest =>
      if multiline && isSpaceOrBreak c then lineContinuation (c :: rest)
      else if c == 'u' then (hexChar 4 rest).map fun (d, s) => ([d], s)
      else if c == 'U' then (hexChar 8 rest).map fun (d, s) => ([d], s)
      else
        match simpleEscape? c with
        | some d => .ok ([d], rest)
        | none => refuse

/-- The content of a basic text up to its closing quotes; `done` is what is read, last character
first, and `n` bounds the number of rounds. -/
def basicBody (multiline : Bool) : Nat → List Char → List Char → Reading (List Char)
  | 0, _, _ => refuse
  | _ + 1, _, [] => refuse
  | n + 1, done, c :: rest =>
      if c == '"' then
        if multiline then
          match dropFront? ['"', '"'] rest with
          | some after => .ok (done.reverse, after)
          | none => basicBody multiline n (c :: done) rest
        else .ok (done.reverse, rest)
      else if c == '\\' then
        match escape multiline rest with
        | .ok (cs, after) => basicBody multiline n (cs.reverse ++ done) after
        | .error e => .error e
      else if (if multiline then isControlInLines c else isControl c) then refuse
      else basicBody multiline n (c :: done) rest

/-- A basic text on one line, after its opening quote. -/
def basicText (s : List Char) : Reading (List Char) := basicBody false (s.length + 1) [] s

/-- A literal text on one line, after its opening quote. -/
def literalText (s : List Char) : Reading (List Char) :=
  let body := s.takeWhile (· != '\'')
  match s.drop body.length with
  | _ :: rest => if body.any isControl then refuse else .ok (body, rest)
  | [] => refuse

/-- The content of a literal text over several lines. -/
def literalBody : List Char → List Char → Reading (List Char)
  | _, [] => refuse
  | done, '\'' :: '\'' :: '\'' :: rest =>
      if done.any isControlInLines then refuse else .ok (done.reverse, rest)
  | done, c :: rest => literalBody (c :: done) rest

/-- Up to two quotes right before the closing ones belong to the text. -/
def extraQuotes (mark : Char) (body : List Char) : List Char → List Char × List Char
  | c :: d :: rest =>
      if c == mark then
        if d == mark then (body ++ [c, d], rest) else (body ++ [c], d :: rest)
      else (body, c :: d :: rest)
  | [c] => if c == mark then (body ++ [c], []) else (body, [c])
  | [] => (body, [])

/-- A line end right after the opening quotes is left out. -/
def skipFirstBreak : List Char → List Char
  | '\n' :: rest => rest
  | s => s

/-- A text over several lines, after its opening quotes. -/
def multilineText (literal : Bool) (s : List Char) : Reading (List Char) :=
  let s := skipFirstBreak s
  let body := if literal then literalBody [] s else basicBody true (s.length + 1) [] s
  body.map fun (cs, rest) => extraQuotes (if literal then '\'' else '"') cs rest

end Foldline.Toml
