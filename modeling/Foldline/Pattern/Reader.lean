import Foldline.Pattern.Expression.Compile
import Foldline.Pattern.Reader.CharSet
import Foldline.Pattern.Reader.Opening
import Foldline.Pattern.Reader.Repetition

/-! # Reading patterns

Group numbers count opening parentheses; references may point only to groups that are closed. Every
reader that can nest takes a bound on the number of steps; `readWithin` gives one that the length of
the text cannot exceed. The content of a group is read by calls inside those that read what is
around it: how many levels of groups there is room for depends on the calls that are open already
and on what the groups hold, so the number of levels is left to whoever reads. -/

namespace Foldline.Pattern

namespace Reader

/-- Characters that verbose patterns skip. -/
def isSkipped (c : Char) : Bool :=
  c == ' ' || c == '\t' || c == '\n' || c == '\r' || c.toNat == 11 || c.toNat == 12

mutual

/-- Branches between bars. At the top, flags for the whole pattern may stand at the very start. -/
def branches (top : Bool) : Nat → Bool → Reader Row
  | 0, _ => fail .unexpectedEnd 0
  | n + 1, verbose => do
      let first ← sequence top top n verbose []
      if ← accept '|' then
        let verbose ← if top then pure (← get).flags.verbose else pure verbose
        return alternatives (first :: (← moreBranches top n verbose))
      else return first

/-- The branches after a bar. -/
def moreBranches (top : Bool) : Nat → Bool → Reader (List Row)
  | 0, _ => fail .unexpectedEnd 0
  | n + 1, verbose => do
      let first ← sequence top false n verbose []
      if ← accept '|' then return first :: (← moreBranches top n verbose)
      else return [first]

/-- A row of items up to a bar, a closing parenthesis or the end. -/
def sequence (top atStart : Bool) : Nat → Bool → List Item → Reader Row
  | 0, _, _ => fail .unexpectedEnd 0
  | n + 1, verbose, items => do
      match ← peek with
      | none => return rowOf items
      | some t =>
          if t == .plain '|' || t == .plain ')' then return rowOf items
          let start ← position
          advance
          match t with
          | .escaped c => sequence top atStart n verbose (.ofPart (← escape c) :: items)
          | .plain c =>
              if verbose && isSkipped c then sequence top atStart n verbose items
              else if verbose && c == '#' then
                skipLine (← remaining)
                sequence top atStart n verbose items
              else if c == '[' then
                sequence top atStart n verbose (.ofPart (← charSet) :: items)
              else if c == '?' then
                sequence top atStart n verbose (← quantify 0 (some 1) start items)
              else if c == '*' then
                sequence top atStart n verbose (← quantify 0 none start items)
              else if c == '+' then
                sequence top atStart n verbose (← quantify 1 none start items)
              else if c == '\x7b' then
                match ← bounds? with
                | none =>
                    sequence top atStart n verbose (.ofPart (.literal c.toNat false) :: items)
                | some (least, most) =>
                    sequence top atStart n verbose (← quantify least most start items)
              else if c == '.' then sequence top atStart n verbose (.ofPart .any :: items)
              else if c == '^' then
                sequence top atStart n verbose (.ofPart (.mark .lineStart) :: items)
              else if c == '$' then
                sequence top atStart n verbose (.ofPart (.mark .lineEnd) :: items)
              else if c == '(' then
                match ← opening (atStart && items.isEmpty) start with
                | .nothing =>
                    let verbose ← if top then pure (← get).flags.verbose else pure verbose
                    sequence top atStart n verbose items
                | .item p => sequence top atStart n verbose (.ofPart p :: items)
                | .look backward negated =>
                    let p ← look n verbose backward negated start
                    sequence top atStart n verbose (.ofPart p :: items)
                | .condition =>
                    let p ← condition n verbose start
                    sequence top atStart n verbose (.ofPart p :: items)
                | .group capturing isAtomic name on off =>
                    let item ← group n verbose capturing isAtomic name on off start
                    sequence top atStart n verbose (item :: items)
              else sequence top atStart n verbose (.ofPart (.literal c.toNat false) :: items)

/-- The content of a look-ahead or look-behind. -/
def look : Nat → Bool → Bool → Bool → Nat → Reader Expression
  | 0, _, _, _, _ => fail .unexpectedEnd 0
  | n + 1, verbose, backward, negated, start => do
      let outer := (← get).lookbehind
      if backward && outer.isNone then
        modify fun s => { s with lookbehind := some s.groups.length }
      let body := (← nested (branches false n verbose)).expression
      if backward && outer.isNone then modify fun s => { s with lookbehind := none }
      expectClose start
      return .look backward negated (body.width (← groupWidths)) body

/-- The content of a conditional: the group it asks for and one or two branches. -/
def condition : Nat → Bool → Nat → Reader Expression
  | 0, _, _ => fail .unexpectedEnd 0
  | n + 1, verbose, start => do
      let asked ← conditionGroup
      checkLookbehind asked
      let present ← nested (sequence false false n verbose [])
      let absent ←
        if ← accept '|' then
          let absent ← nested (sequence false false n verbose [])
          if (← peek) == some (.plain '|') then fail .tooManyBranches 0
          pure absent
        else pure []
      expectClose start
      return .cond asked present.expression absent.expression

/-- The content of any other group. -/
def group : Nat → Bool → Bool → Bool → Option (List Char) → Flags → Flags → Nat → Reader Item
  | 0, _, _, _, _, _, _, _ => fail .unexpectedEnd 0
  | n + 1, verbose, capturing, isAtomic, name, on, off, start => do
      let number ← if capturing then openGroup name else pure 0
      let row ← nested (branches false n ((verbose || on.verbose) && !off.verbose))
      expectClose start
      if capturing then
        closeGroup number row.expression
        return .ofPart (.capture number row.expression)
      else if isAtomic then return .ofPart (.atomic row.expression)
      else if on.isEmpty && off.isEmpty then return { parts := row }
      else return .ofPart (.scoped on off row.expression)

end

/-- A whole pattern: all branches, nothing after them, and no question about a missing group. -/
def whole : Reader Expression := do
  checkNext
  let n := (← get).source.length
  let row ← branches true (3 * n + 3) false
  let s ← get
  if s.flags.ascii && s.flags.unicode then throw .clashingCharacterSets
  if !s.rest.isEmpty then fail .unbalancedParenthesis 0
  match s.asked.find? fun q => s.groups.length < q.1 with
  | some (group, place) => failAt (.invalidGroup group) place
  | none => return row.expression

end Reader

/-- The name of a repetition in the message about templates. -/
def Greed.operator : Greed → String
  | .greedy => "MAX_REPEAT"
  | .lazy => "MIN_REPEAT"
  | .possessive => "POSSESSIVE_REPEAT"

namespace Expression

/-- The first fault that shows only once a pattern has been read: a look-behind without a fixed
width, or a repetition in a template. -/
def lateProblem? (template : Bool) : Expression → Option Problem
  | .seq a b | .alt a b | .cond _ a b =>
      match lateProblem? template a with
      | some problem => some problem
      | none => lateProblem? template b
  | .repeated greed _ _ body =>
      if template then some (.repetitionInTemplate greed.operator)
      else lateProblem? template body
  | .capture _ body | .scoped _ _ body | .atomic body => lateProblem? template body
  | .look backward _ width body =>
      if backward && width.least != width.most then some .lookbehindWidth
      else lateProblem? template body
  | _ => none

/-- A look-behind goes back less far than this. -/
def lookbehindLimit : Nat := 0x80000000

/-- Whether a look-behind goes back too far to be matched. -/
def looksTooFarBack : Expression → Bool
  | .seq a b | .alt a b | .cond _ a b => looksTooFarBack a || looksTooFarBack b
  | .repeated _ _ _ body | .capture _ body | .scoped _ _ body | .atomic body =>
      looksTooFarBack body
  | .look backward _ width body =>
      (backward && lookbehindLimit ≤ width.least) || looksTooFarBack body
  | _ => false

end Expression

/-- Read the text of a pattern with room for a number of levels of groups. The pattern asks first
for the room that it needs at least. -/
def readWithin (levels : Nat) (source : List Char) : Except Error Pattern :=
  let (ts, dangling) := tokens source
  match Reader.whole.run { source, rest := ts, dangling, levels } with
  | .error e => .error e
  | .ok (e, s) =>
      match e.lateProblem? s.flags.template with
      | some problem => .error (.malformed problem none)
      | none =>
          if e.looksTooFarBack then .error .lookbehindTooFar
          else
            let width := e.width (Reader.groupWidth s.groups)
            .ok (.seq (.anchor (.room width.least)) (e.compile s.flags none))

/-- The levels of groups that a program with nothing else to do has room for, by and large. -/
def usualLevels : Nat := 490

/-- Read the text of a pattern with the usual room for groups. -/
def read (source : List Char) : Except Error Pattern := readWithin usualLevels source

end Foldline.Pattern
