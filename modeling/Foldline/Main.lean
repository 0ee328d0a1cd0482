import Foldline.Command.Run

/-! # The program

The program looks at the file that it is to scan and at the settings files above it, runs the
command on what it saw, and prints what the command leaves behind. -/

namespace Foldline.Program

/-- A place and the directories above it. -/
def withDirectories (location : Location) (node : Node) : List (Location × Node) :=
  (location, node) ::
    (List.range location.length).filterMap fun n =>
      if n = 0 then none else some (location.take n, .directory)

/-- The place that a path spells, from a current directory. -/
def spelledLocation (current : Location) (p : Path) : Location :=
  Resolve.flatten (if p.isAbsolute then p.names else current ++ p.names)

/-- The bytes of a regular file, if there is one at a path. -/
def fileBytes? (path : String) : IO (Option (List UInt8)) := do
  try
    return some (← IO.FS.readBinFile path).toList
  catch _ => return none

/-- What stands at a path. If it is reached through links, one link stands for all of them. -/
def observe (current : Location) (p : Path) : IO (List (Location × Node)) := do
  let spelled := spelledLocation current p
  try
    let real ← IO.FS.realPath p.toString
    if !(← real.pathExists) then return []
    let location := (Path.ofText real.toString.toList).names
    let link :=
      if location == spelled then []
      else withDirectories spelled (.link (Path.absolute location).text)
    if ← real.isDir then return link ++ withDirectories location .directory
    match ← fileBytes? real.toString with
    | some bytes => return link ++ withDirectories location (.file bytes)
    | none => return []
  catch _ => return []

/-- The settings files above a place. -/
def observeSettings (location : Location) : IO (List (Location × Node)) := do
  let mut found := []
  for (file, _) in Config.candidates (Path.absolute location) do
    match ← fileBytes? file.toString with
    | some bytes => found := found ++ withDirectories file.names (.file bytes)
    | none => pure ()
  return found

/-- An entry of the user database. -/
structure User where
  name : String
  number : String
  home : String

/-- An entry as it is written: seven fields with colons between them. -/
def User.ofLine? (line : String) : Option User :=
  match line.splitOn ":" with
  | [name, _, number, _, _, home, _] => some { name, number, home }
  | _ => none

/-- The lines of a text file; none if it cannot be read. -/
def linesOf (path : String) : IO (List String) := do
  match ← fileBytes? path with
  | some bytes => return ((String.fromUTF8? ⟨bytes.toArray⟩).getD "").splitOn "\n"
  | none => return []

/-- All users. -/
def observeUsers : IO (List User) := do
  return (← linesOf "/etc/passwd").filterMap User.ofLine?

/-- The number of the user that the program runs for. -/
def observeUserNumber? : IO (Option String) := do
  return (← linesOf "/proc/self/status").findSome? fun line =>
    match line.splitOn "\t" with
    | "Uid:" :: number :: _ => some number
    | _ => none

/-- The home directory of the user: what the environment says, or else the user database. -/
def observeHome? (users : List User) : IO (Option String) := do
  match ← IO.getEnv "HOME" with
  | some home => return home
  | none =>
      let number ← observeUserNumber?
      return (users.find? fun user => some user.number == number).map (·.home)

/-- The machine as far as the command looks at it. -/
def observeHost (arguments : List String) : IO Host := do
  let current := (Path.ofText (← IO.currentDir).toString.toList).names
  let users ← observeUsers
  let home := (← observeHome? users).map (·.toList)
  let homes := users.map fun user => (user.name.toList, user.home.toList)
  let sizeLimit ← IO.getEnv Source.sizeLimitVariable
  let host : Host := { tree := {}, current, home, homes, sizeLimit }
  match Command.Arguments.read arguments with
  | .ok { operands := file :: _, .. } =>
      let written := Path.ofText file.toList
      let path := (host.expandHome? written).getD written
      let source := (← observe current written) ++ (← observe current path)
      let known := { host with tree := { entries := source ++ withDirectories current .directory } }
      match known.resolve false path with
      | .ok resolved =>
          let settings ← observeSettings resolved.parent.names
          return { known with tree := { entries := settings ++ known.tree.entries } }
      | .error _ => return known
  | _ => return host

end Foldline.Program

def main (arguments : List String) : IO UInt32 := do
  let host ← Foldline.Program.observeHost arguments
  let outcome := Foldline.Command.run host arguments
  IO.print outcome.out
  IO.eprint outcome.err
  match outcome.failure with
  | some e => IO.eprintln e.message
  | none => pure ()
  return outcome.exitCode.toUInt32
