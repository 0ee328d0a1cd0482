import Foldline.Pattern.Basic

/-! # Matching patterns

A pattern is run from a place in the subject with a continuation that says how to go on. Choices are
tried in the order that the pattern gives them, and the first way through wins.

Besides the place, matching keeps a memory: the bounds of the groups, and a cursor, which is where
the latest try started or ended. A try that fails leaves its memory behind. Choices inside a
repetition undo all bounds that a failed try has set; choices outside of one undo only the bounds of
groups that were not met before. A possessive repetition goes on from the cursor when a round of it
fails, so what the failed round has tried decides where the rest of the pattern is matched.

Repetitions run a bounded number of rounds: a round that takes up no text is the last one, so the
length of the subject bounds them. -/

namespace Foldline.Pattern

/-- A place in the subject. -/
structure Spot where
  /-- The characters passed, last one first. -/
  before : List Char
  after : List Char
  position : Nat := 0
  deriving DecidableEq, Repr

namespace Spot

def start (subject : List Char) : Spot := { before := [], after := subject }

/-- The place after the next character `c`, where `rest` is left. -/
def step (s : Spot) (c : Char) (rest : List Char) : Spot :=
  { before := c :: s.before, after := rest, position := s.position + 1 }

/-- The place `n` characters back, or the start. -/
def back : Nat → Spot → Spot
  | 0, s => s
  | n + 1, s =>
      match s.before with
      | c :: before => back n { before, after := c :: s.after, position := s.position - 1 }
      | [] => s

/-- Whether the next character passes a test. -/
def passes (s : Spot) (test : CharTest) : Bool := s.after.head?.any test.accepts

/-- The places after 0, 1, 2, … characters that pass a test, at most `most` of them; the farthest
comes first. -/
def reach (ok : Char → Bool) (most : Option Nat) (s : Spot) : List Spot :=
  go s.after most s []
where
  go : List Char → Option Nat → Spot → List Spot → List Spot
    | [], _, s, farther => s :: farther
    | _, some 0, s, farther => s :: farther
    | c :: rest, most, s, farther =>
        if ok c then go rest (most.map (· - 1)) (s.step c rest) (s :: farther)
        else s :: farther

/-- The text between two positions. -/
def textBetween (s : Spot) (start stop : Nat) : List Char :=
  ((s.before.reverse ++ s.after).drop start).take (stop - start)

end Spot

/-- What matching remembers. -/
structure Memory where
  /-- Where groups were last opened and closed, two bounds for each group up to the last one met. -/
  bounds : List (Option Nat) := []
  cursor : Spot
  deriving DecidableEq, Repr

namespace Memory

/-- Move the cursor. -/
def moved (m : Memory) (s : Spot) : Memory := { m with cursor := s }

/-- Set a bound; bounds between the last one met and this one are open. -/
def setBound (m : Memory) (index : Nat) (s : Spot) : Memory :=
  { m with bounds :=
      if index < m.bounds.length then m.bounds.set index (some s.position)
      else m.bounds ++ List.replicate (index - m.bounds.length) none ++ [some s.position] }

/-- The bounds before a try, once it has failed: all of them, or those of the groups met before as
they are now. -/
def undone (saved : Memory) (all : Bool) (now : Memory) : Memory :=
  { now with bounds := if all then saved.bounds else now.bounds.take saved.bounds.length }

/-- The start and the end of a group that has been closed since it was opened. -/
def captured? (m : Memory) (group : Nat) : Option (Nat × Nat) :=
  match m.bounds[2 * group - 2]?, m.bounds[2 * group - 1]? with
  | some (some start), some (some stop) => if start ≤ stop then some (start, stop) else none
  | _, _ => none

/-- Whether a group ends before it starts. -/
def isTorn (m : Memory) : Bool := go m.bounds
where
  go : List (Option Nat) → Bool
    | some start :: some stop :: rest => stop < start || go rest
    | _ :: _ :: rest => go rest
    | _ => false

end Memory

/-- What stays the same while a part of a pattern is matched. -/
structure Frame where
  /-- Whether the part is inside of a repetition. -/
  looping : Bool := false
  /-- How many rounds a repetition makes at most, beyond those it must make. -/
  rounds : Nat
  deriving DecidableEq, Repr

/-- The frame of a repeated part. -/
def Frame.inside (f : Frame) (greed : Greed) : Frame :=
  { f with looping := f.looping || greed != .possessive }

/-- How a try ends. -/
inductive Outcome where
  | matched (m : Memory)
  | failed (m : Memory)
  deriving DecidableEq, Repr

namespace Outcome

/-- Go on with the memory of a try that fails. -/
def orElse (o : Outcome) (other : Memory → Outcome) : Outcome :=
  match o with
  | .matched m => .matched m
  | .failed m => other m

/-- Put the cursor back to where a try that fails began. -/
def settled (o : Outcome) (s : Spot) : Outcome := o.orElse fun m => .failed (m.moved s)

end Outcome

/-- How matching goes on after a place has been reached. -/
abbrev Next := Spot → Memory → Outcome

/-- A way to match: from a place, with a memory and a continuation. -/
abbrev Run := Spot → Memory → Next → Outcome

/-- The end of a pattern that is matched for itself; the cursor says where. -/
def finish : Next := fun s m => .matched (m.moved s)

/-- Whether fewer than `n` characters are left. -/
def isShorter : List Char → Nat → Bool
  | _, 0 => false
  | [], _ + 1 => true
  | _ :: rest, n + 1 => isShorter rest n

/-- Whether the last line of the subject ends here: at its end, or before a line feed that ends
it. -/
def endsHere : List Char → Bool
  | [] => true
  | ['\n'] => true
  | _ => false

/-- Whether word and other characters meet here. -/
def meetsWord (ascii : Bool) (s : Spot) : Bool :=
  let isWord : Option Char → Bool
    | some c => CharClass.word.contains ascii c
    | none => false
  isWord s.before.head? != isWord s.after.head?

def Anchor.holds : Anchor → Spot → Bool
  | .textStart, s => s.before.isEmpty
  | .textEnd, s => s.after.isEmpty
  | .lastLineEnd, s => endsHere s.after
  | .lineStart, s => s.before.head?.all (· == '\n')
  | .lineEnd, s => s.after.head?.all (· == '\n')
  | .wordBoundary ascii, s => meetsWord ascii s
  | .noWordBoundary ascii, s => !(s.before.isEmpty && s.after.isEmpty) && !meetsWord ascii s
  | .room count, s => !isShorter s.after count

/-- The place after the same text once more, character by character under a case rule. -/
def again? (rule : CaseRule) : List Char → Spot → Option Spot
  | [], s => some s
  | c :: text, s =>
      match s.after with
      | d :: rest =>
          if rule.key c.toNat == rule.key d.toNat then again? rule text (s.step d rest) else none
      | [] => none

/-- Try places one after the other; `saved` is the memory before the first try. -/
def tryEach (looping : Bool) (saved : Memory) (k : Next) : List Spot → Memory → Outcome
  | [], now => .failed now
  | s :: rest, now =>
      (k s (now.moved s)).orElse fun m => tryEach looping saved k rest (saved.undone looping m)

/-- Whether the code point that has to come next is there, if one has to. -/
def isFollowed (follow : Option Nat) (s : Spot) : Bool :=
  follow.all fun code => s.after.head?.any (·.toNat == code)

/-- Where the cursor is after a test has been repeated from `s` up to `stop`: a look-up of lower
cases takes it along. -/
def cursorAfter (test : CharTest) (s stop : Spot) : Spot :=
  if test.looksUpLowerCase then stop else s

/-- Where the cursor is after the last try of a lazy repetition, which ended at `s`: it looks for
one more character. -/
def cursorBeyond (test : CharTest) (s : Spot) : Spot :=
  cursorAfter test s ((s.reach test.accepts (some 1)).headD s)

/-- A repeated test on one character, for as many characters as possible, then fewer. -/
def greedySpan (looping : Bool) (least : Nat) (most : Option Nat) (test : CharTest)
    (follow : Option Nat) : Run := fun s m k =>
  let spots := s.reach test.accepts most
  let m := m.moved (cursorAfter test s (spots.headD s))
  let enough := spots.take (spots.length - least)
  tryEach looping m k (enough.filter (isFollowed follow)) m

/-- A repeated test on one character, for as few characters as possible, then more. -/
def lazySpan (looping : Bool) (least : Nat) (most : Option Nat) (test : CharTest) : Run :=
  fun s m k =>
    let spots := (s.reach test.accepts most).reverse
    match spots.drop least with
    | [] => .failed (m.moved (cursorAfter test s (spots.getLastD s)))
    | first :: rest =>
        (tryEach looping m k (first :: rest) m).settled
          (cursorBeyond test ((first :: rest).getLastD first))

/-- A repeated test on one character, for as many characters as possible. -/
def possessiveSpan (least : Nat) (most : Option Nat) (test : CharTest) : Run := fun s m k =>
  let spots := s.reach test.accepts most
  let stop := spots.headD s
  let m := m.moved (cursorAfter test s stop)
  if spots.length ≤ least then .failed m else k stop m

/-- A repeated test on one character. -/
def runSpan (looping : Bool) (greed : Greed) (least : Nat) (most : Option Nat) (test : CharTest)
    (follow : Option Nat) : Run := fun s m k =>
  if isShorter s.after least then .failed m
  else
    match greed with
    | .greedy => greedySpan looping least most test follow s m k
    | .lazy => lazySpan looping least most test s m k
    | .possessive => possessiveSpan least most test s m k

/-- Exactly `n` rounds of `body`. -/
def times (body : Run) : Nat → Run
  | 0, s, m, k => k s m
  | n + 1, s, m, k => (body s (m.moved s) fun t m => times body n t m k).settled s

/-- Whether another round is allowed: the bound is not used up, and the round before took up
text. -/
def mayRepeat (most : Option Nat) (last : Option Nat) (s : Spot) : Bool :=
  most != some 0 && last != some s.position

/-- As many further rounds of `body` as possible, then fewer. -/
def manyRounds (body : Run) : Nat → Option Nat → Option Nat → Run
  | 0, _, _, s, m, k => (k s (m.moved s)).settled s
  | n + 1, most, last, s, m, k =>
      let m := m.moved s
      if mayRepeat most last s then
        ((body s m fun t m => manyRounds body n (most.map (· - 1)) (some s.position) t m k).orElse
          fun now => k s ((m.undone true now).moved s)).settled s
      else (k s m).settled s

/-- As few further rounds of `body` as possible, then more; `looping` says whether the repetition is
itself inside of one. -/
def fewRounds (looping : Bool) (body : Run) : Nat → Option Nat → Option Nat → Run
  | 0, _, _, s, m, k => (k s (m.moved s)).settled s
  | n + 1, most, last, s, m, k =>
      let m := m.moved s
      ((k s m).orElse fun now =>
        let m := (m.undone looping now).moved s
        if mayRepeat most last s then
          body s m fun t m => fewRounds looping body n (most.map (· - 1)) (some s.position) t m k
        else .failed m).settled s

/-- `n` rounds of `body`, each one settled for good. -/
def settledTimes (body : Run) : Nat → Memory → Outcome
  | 0, m => .matched m
  | n + 1, m =>
      match body m.cursor m finish with
      | .matched m => settledTimes body n m
      | .failed m => .failed m

/-- As many further rounds of `body` as there are, each one settled for good. A round that fails
leaves the cursor where it is. -/
def settledRounds (body : Run) : Nat → Option Nat → Option Nat → Memory → Memory
  | 0, _, _, m => m
  | n + 1, most, last, m =>
      if mayRepeat most last m.cursor then
        match body m.cursor m finish with
        | .matched t => settledRounds body n (most.map (· - 1)) (some m.cursor.position) t
        | .failed now => m.undone true now
      else m

/-- A repeated pattern. After the rounds it must make, each further round but the last takes up
text. -/
def runLoop (f : Frame) (greed : Greed) (least : Nat) (most : Option Nat) (body : Run) : Run :=
  fun s m k =>
    let rest := most.map (· - least)
    match greed with
    | .greedy => times body least s m fun t m => manyRounds body f.rounds rest none t m k
    | .lazy => times body least s m fun t m => fewRounds f.looping body f.rounds rest none t m k
    | .possessive =>
        match settledTimes body least (m.moved s) with
        | .failed m => .failed (m.moved s)
        | .matched m =>
            let m := settledRounds body f.rounds rest none m
            k m.cursor m

/-- Run a pattern from a place. -/
def run : Pattern → Frame → Run
  | .empty, _, s, m, k => k s m
  | .never, _, _, m, _ => .failed m
  | .unit test, _, s, m, k =>
      match s.after with
      | c :: rest => if test.accepts c then k (s.step c rest) m else .failed m
      | [] => .failed m
  | .anchor a, _, s, m, k => if a.holds s then k s m else .failed m
  | .seq a b, f, s, m, k => run a f s m fun t m => run b f t m k
  | .alt guard a others, f, s, m, k =>
      if guard.all s.passes then
        (run a f s (m.moved s) k).orElse fun now =>
          run others f s (m.undone f.looping now) k
      else run others f s m k
  | .span greed least most test follow, f, s, m, k =>
      runSpan f.looping greed least most test follow s m k
  | .loop greed least most body, f, s, m, k =>
      runLoop f greed least most (run body (f.inside greed)) s m k
  | .capture group body, f, s, m, k =>
      run body f s (m.setBound (2 * group - 2) s) fun t m => k t (m.setBound (2 * group - 1) t)
  | .atomic body, f, s, m, k =>
      match run body f s (m.moved s) finish with
      | .matched m => k m.cursor m
      | .failed m => .failed (m.moved s)
  | .ahead false body, f, s, m, k =>
      match run body f s (m.moved s) finish with
      | .matched m => k s m
      | .failed m => .failed m
  | .ahead true body, f, s, m, k =>
      match run body f s (m.moved s) finish with
      | .matched now => .failed now
      | .failed now => k s (m.undone f.looping now)
  | .behind false width body, f, s, m, k =>
      if s.position < width then .failed m
      else
        let t := s.back width
        match run body f t (m.moved t) finish with
        | .matched m => k s m
        | .failed m => .failed m
  | .behind true width body, f, s, m, k =>
      if s.position < width then k s m
      else
        let t := s.back width
        match run body f t (m.moved t) finish with
        | .matched now => .failed now
        | .failed now => k s (m.undone f.looping now)
  | .backref group rule, _, s, m, k =>
      match m.captured? group with
      | some (start, stop) =>
          match again? rule (s.textBetween start stop) s with
          | some t => k t m
          | none => .failed m
      | none => .failed m
  | .cond group present absent, f, s, m, k =>
      if (m.captured? group).isSome then run present f s m k else run absent f s m k

/-- How matching a pattern at the start of a subject ends; text may be left over. -/
def outcome (p : Pattern) (subject : List Char) : Outcome :=
  let s := Spot.start subject
  p.run { rounds := subject.length + 1 } s { cursor := s } finish

end Foldline.Pattern
