import Foldline.FileTree

/-! # Resolving a path

Resolving replaces every link in a path by what it points to and works out double dots on the way,
name by name, so that the result has neither. A strict resolution fails at the first name that does
not exist; a lenient one takes such names as they are. Following a link that is met on the way of
another one takes a call inside the other's, and there is room for so many calls only. -/

namespace Foldline

namespace Resolve

/-- A place as far as a path is resolved, still relative if the path was. -/
structure Trail where
  absolute : Bool
  names : List Name
  deriving DecidableEq, Repr

namespace Trail

def text (t : Trail) : List Char :=
  if t.absolute then '/' :: Path.joinNames t.names else Path.joinNames t.names

def push (t : Trail) (name : Name) : Trail := { t with names := t.names ++ [name] }

/-- Go one up. There is nothing above the top, and above a relative start only double dots help. -/
def up (t : Trail) : Trail :=
  match t.names.getLast? with
  | none => if t.absolute then t else t.push Path.dotDot
  | some last =>
      if last == Path.dotDot then t.push Path.dotDot else { t with names := t.names.dropLast }

end Trail

/-- Why a resolution fails. -/
inductive Fault where
  | system (e : SystemError)
  | linkLoop (path : List Char)
  | nulByte
  | tooDeep
  deriving DecidableEq, Repr

/-- A link that leads back to itself is a fault of its own. -/
def Fault.ofSystem (e : SystemError) : Fault :=
  if e.fault = .tooManyLinks then .linkLoop e.path else .system e

/-- The links met so far; one that is still being followed has no result yet. -/
abbrev Links := List (Trail × Option Trail)

/-- Where a resolution gets to, with the links met on the way. A resolution that runs into a loop of
links is stuck: from there on the path is taken as it is written. -/
inductive Result where
  | settled (trail : Trail) (links : Links)
  | stuck (text : List Char)

/-- A text after a path; one that starts at the top replaces the path. -/
def joinText (path rest : List Char) : List Char :=
  if rest.head? == some '/' then rest
  else if path.isEmpty || path.getLast? == some '/' then path ++ rest
  else path ++ '/' :: rest

/-- What to do about a link: follow it from a trail to its target. -/
abbrev Follow := Trail → List Char → Links → Except Fault Result

/-- The fault of following a link that is being followed already. -/
def loopFault (h : Host) (path : List Char) : Fault :=
  match h.target path with
  | .error fault => .ofSystem ⟨fault, path⟩
  | .ok _ => .linkLoop path

/-- Resolve names one after the other. -/
def alongNames (h : Host) (strict : Bool) (follow : Follow) :
    List Name → Trail → Links → Except Fault Result
  | [], trail, links => .ok (.settled trail links)
  | name :: rest, trail, links =>
      if name.isEmpty || name == Path.dot then alongNames h strict follow rest trail links
      else if name == Path.dotDot then alongNames h strict follow rest trail.up links
      else
        let next := trail.push name
        if next.text.contains '\x00' then .error .nulByte
        else
          match h.entry next.text with
          | .error fault =>
              if strict then .error (.ofSystem ⟨fault, next.text⟩)
              else alongNames h strict follow rest next links
          | .ok (.link target) =>
              match links.lookup next with
              | some (some found) => alongNames h strict follow rest found links
              | some none =>
                  if strict then .error (loopFault h next.text)
                  else .ok (.stuck (joinText next.text (Path.joinNames rest)))
              | none =>
                  match follow trail target ((next, none) :: links) with
                  | .error e => .error e
                  | .ok (.settled found links) =>
                      alongNames h strict follow rest found ((next, some found) :: links)
                  | .ok (.stuck text) => .ok (.stuck (joinText text (Path.joinNames rest)))
          | .ok _ => alongNames h strict follow rest next links

/-- Follow links with room for a number of calls, one for each link inside the others. -/
def followLinks (h : Host) (strict : Bool) : (calls : Nat) → Follow
  | 0, _, _, _ => .error .tooDeep
  | calls + 1, trail, target, links =>
      alongNames h strict (followLinks h strict calls) (Text.cutAt '/' target)
        (if target.head? == some '/' then ⟨true, []⟩ else trail) links

/-- Work out dots and double dots in names from the top by their spelling alone. -/
def flatten (names : List Name) : List Name :=
  names.foldl (fun done name =>
    if name.isEmpty || name == Path.dot then done
    else if name == Path.dotDot then done.dropLast
    else done ++ [name]) []

/-- The path from the top that a text stands for, without dots and double dots. A NUL ends it. -/
def pathFromTop (h : Host) (text : List Char) : Path :=
  let written := joinText (Path.absolute h.current).text text
  let path := Path.ofText (written.takeWhile (· != '\x00'))
  { path with names := flatten path.names }

/-- The path from the top that a resolution gets to. -/
def Result.path (h : Host) : Result → Path
  | .settled trail _ =>
      .absolute (flatten (if trail.absolute then trail.names else h.current ++ trail.names))
  | .stuck text => pathFromTop h text

end Resolve

/-- Resolve a path to one from the top without links and double dots. A lenient resolution still
fails if the result leads into a loop of links. -/
def Host.resolve (h : Host) (strict : Bool) (p : Path) : Except Resolve.Fault Path :=
  match Resolve.alongNames h strict (Resolve.followLinks h strict h.calls) p.names
      ⟨p.isAbsolute, []⟩ [] with
  | .error e => .error e
  | .ok r =>
      let path := r.path h
      if strict then .ok path
      else
        match h.target path.text with
        | .error .tooManyLinks => .error (.linkLoop path.text)
        | _ => .ok path

end Foldline
