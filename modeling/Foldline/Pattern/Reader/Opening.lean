import Foldline.Pattern.Reader.Escape
import Foldline.Text.Identifier
import Foldline.Text.Letter
import Foldline.Text.Numeral

/-! # Openings of groups

What can stand between an opening parenthesis and the content of a group: names, flags, look-around
marks, conditions and comments. -/

namespace Foldline.Pattern.Reader

/-- Skip a comment that runs to the end of the line. -/
def skipLine : Nat → Reader Unit
  | 0 => pure ()
  | n + 1 => do
      match ← next with
      | none => pure ()
      | some t => if t == .plain '\n' then pure () else skipLine n

/-- Skip a comment group after its mark; `start` is where the group began. -/
def skipComment (start : Nat) : Nat → Reader Unit
  | 0 => failAt .unterminatedComment start
  | n + 1 => do
      match ← peek with
      | none => failAt .unterminatedComment start
      | some t =>
          advance
          if t == .plain ')' then pure () else skipComment start n

/-- A group name has to be an identifier. -/
def checkName (name : List Char) : Reader Unit := do
  if !Text.isIdentifier name then fail (.badGroupName name) (name.length + 1)

/-- The number of a named group. -/
def groupNamed (name : List Char) : Reader Nat := do
  match (← get).names.lookup name with
  | some group => return group
  | none => fail (.unknownGroupName name) (name.length + 1)

/-- Letters that switch flags on, from `c` on; gives the flags and the character after them. -/
def flagsOn : Nat → Flags → Char → Reader (Flags × Char)
  | 0, _, _ => fail .missingFlagEnd 0
  | n + 1, on, c => do
      let flag := (Flags.ofLetter? c).getD {}
      if flag.locale then fail .localeFlag 0
      let on := on.union flag
      if flag.choosesCharacterSet && on.choosesSeveral then fail .incompatibleFlags 0
      match ← next with
      | none => fail .missingFlagEnd 0
      | some t =>
          match t with
          | .plain d =>
              if d == ')' || d == '-' || d == ':' then return (on, d)
              else if (Flags.ofLetter? d).isSome then flagsOn n on d
              else fail (if Text.isLetter d then .unknownFlag else .missingFlagEnd) 1
          | .escaped _ => fail .missingFlagEnd 2

/-- Letters that switch flags off, from `c` on, up to the colon. -/
def flagsOff : Nat → Flags → Char → Reader Flags
  | 0, _, _ => fail .missingColon 0
  | n + 1, off, c => do
      let flag := (Flags.ofLetter? c).getD {}
      if flag.choosesCharacterSet then fail .characterSetFlagOff 0
      let off := off.union flag
      match ← next with
      | none => fail .missingColon 0
      | some t =>
          match t with
          | .plain d =>
              if d == ':' then return off
              else if (Flags.ofLetter? d).isSome then flagsOff n off d
              else fail (if Text.isLetter d then .unknownFlag else .missingColon) 1
          | .escaped _ => fail .missingColon 2

/-- Flags of a group, from their first character on: flags to switch inside the group, or nothing
if they were set for the whole pattern. -/
def groupFlags? (c : Char) : Reader (Option (Flags × Flags)) := do
  let n ← remaining
  let (on, after) ← if c == '-' then pure (({} : Flags), '-') else flagsOn (n + 1) {} c
  if after == ')' then
    modify fun s => { s with flags := s.flags.union on }
    return none
  if on.template then fail .globalFlagOn 1
  let off ←
    if after == '-' then
      match ← next with
      | none => fail .missingFlag 0
      | some (.escaped _) => fail .missingFlag 2
      | some (.plain d) =>
          if (Flags.ofLetter? d).isSome then flagsOff (n + 1) {} d
          else fail (if Text.isLetter d then .unknownFlag else .missingFlag) 1
    else pure {}
  if off.template then fail .globalFlagOff 1
  if !(on.inter off).isEmpty then fail .flagOnAndOff 1
  return some (on, off)

/-- Give the next group its number. -/
def openGroup (name : Option (List Char)) : Reader Nat := do
  let s ← get
  let group := s.groups.length + 1
  match name with
  | none => set { s with groups := s.groups ++ [none] }
  | some name =>
      match s.names.lookup name with
      | some earlier => fail (.repeatedGroupName name group earlier) (name.length + 1)
      | none =>
          set { s with groups := s.groups ++ [none], names := (name, group) :: s.names }
  return group

/-- The width of a group among the groups read so far. -/
def groupWidth (groups : List (Option Width)) (group : Nat) : Width :=
  ((groups[group - 1]?).bind id).getD .zero

/-- The widths of the groups read so far. -/
def groupWidths : Reader (Nat → Width) := do return groupWidth (← get).groups

/-- Close a group. -/
def closeGroup (group : Nat) (body : Expression) : Reader Unit := do
  let width := body.width (← groupWidths)
  modify fun s => { s with groups := s.groups.set (group - 1) (some width) }

/-- The parenthesis that ends a group; `start` is where the group began. -/
def expectClose (start : Nat) : Reader Unit := do
  if !(← accept ')') then failAt .unterminatedGroup start

/-- The greatest group number that a conditional may ask for, and one more. -/
def groupLimit : Nat := 1073741823

/-- The group that a conditional asks for, by name or by number. -/
def conditionGroup : Reader Nat := do
  let name ← nameUntil ')' "group name" ((← remaining) + 1) []
  let back := name.length + 1
  if Text.isIdentifier name then groupNamed name
  else
    match Text.Numeral.read? name with
    | none => fail (.badGroupName name) back
    | some number =>
        if number < 0 then fail (.badGroupName name) back
        let group := number.toNat
        if group == 0 then fail .badGroupNumber back
        if groupLimit ≤ group then fail (.invalidGroup group) back
        let place := (← position) - back
        modify fun s =>
          if (s.asked.lookup group).isSome then s
          else { s with asked := s.asked ++ [(group, place)] }
        return group

/-- What follows the opening of a group. -/
inductive Opening where
  /-- Nothing is left to read, as after a comment; flags may have changed. -/
  | nothing
  | item (part : Expression)
  | look (backward negated : Bool)
  | condition
  | group (capturing atomic : Bool) (name : Option (List Char)) (on off : Flags)

/-- Read what stands between an opening parenthesis and a group's content. Flags for the whole
pattern are allowed only where `atStart`; `start` is where the group began. -/
def opening (atStart : Bool) (start : Nat) : Reader Opening := do
  if !(← accept '?') then return .group true false none {} {}
  match ← next with
  | none => fail .unexpectedEnd 0
  | some (.escaped c) => fail (.unknownExtension ['?', '\\', c]) 3
  | some (.plain c) =>
      if c == 'P' then
        if ← accept '<' then
          let name ← nameUntil '>' "group name" ((← remaining) + 1) []
          checkName name
          return .group true false (some name) {} {}
        else if ← accept '=' then
          let name ← nameUntil ')' "group name" ((← remaining) + 1) []
          checkName name
          let group ← groupNamed name
          if !(← isClosed group) then fail .openGroup (name.length + 1)
          checkLookbehind group
          return .item (.backref group)
        else
          match ← next with
          | none => fail .unexpectedEnd 0
          | some t => fail (.unknownExtension (['?', 'P'] ++ t.text)) (t.length + 2)
      else if c == ':' then return .group false false none {} {}
      else if c == '#' then
        skipComment start ((← remaining) + 1)
        return .nothing
      else if c == '=' then return .look false false
      else if c == '!' then return .look false true
      else if c == '<' then
        match ← next with
        | none => fail .unexpectedEnd 0
        | some t =>
            if t == .plain '=' then return .look true false
            else if t == .plain '!' then return .look true true
            else fail (.unknownExtension (['?', '<'] ++ t.text)) (t.length + 2)
      else if c == '(' then return .condition
      else if c == '>' then return .group false true none {} {}
      else if c == '-' || (Flags.ofLetter? c).isSome then
        match ← groupFlags? c with
        | some (on, off) => return .group false false none on off
        | none =>
            if !atStart then failAt .lateGlobalFlags start
            return .nothing
      else fail (.unknownExtension ['?', c]) 2

end Foldline.Pattern.Reader
