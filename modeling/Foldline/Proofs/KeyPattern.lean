import Foldline.Proofs.LineKind

/-! # The pattern of key lines that stands by default

A pattern that matches may still end in a fault, if one of its groups ends before it starts. The
default pattern has one group, in front of a few plain tests and inside an optional part, and its
group is always opened and closed in order.

## Implementation notes

Matching is written with continuations, so what a part of a pattern keeps is said of the outcome of
the whole rest: a match has no torn group, and a failure still has in front the bounds it began
with. The second half is what lets the next try start from the same bounds. -/

namespace Foldline.Pattern

/-- Whether a try has found a way through. -/
def Outcome.isMatched : Outcome → Bool
  | .matched _ => true
  | .failed _ => false

/-- An outcome from bounds `b` on: no group of a match is torn, and a failure has kept `b`. -/
def Outcome.Keeps (b : List (Option Nat)) : Outcome → Prop
  | .matched m => m.isTorn = false
  | .failed m => b <+: m.bounds

/-- A continuation keeps bounds `b` wherever it is called from position `n` on. -/
def Next.Keeps (b : List (Option Nat)) (n : Nat) (k : Next) : Prop :=
  ∀ t m, n ≤ t.position → m.bounds = b → (k t m).Keeps b

variable {b : List (Option Nat)} {n : Nat} {s : Spot} {m saved : Memory} {k : Next} {o : Outcome}

@[simp] theorem Memory.moved_bounds : (m.moved s).bounds = m.bounds := rfl

/-- After a failed try that has kept the bounds, they can be restored in either way. -/
theorem Memory.undone_bounds {all : Bool} (hs : saved.bounds = b) (hm : b <+: m.bounds) :
    (saved.undone all m).bounds = b := by
  cases all with
  | true => simpa [Memory.undone] using hs
  | false => simpa [Memory.undone, hs] using (List.prefix_iff_eq_take.mp hm).symm

theorem Next.Keeps.mono {n' : Nat} (h : Next.Keeps b n k) (hn : n ≤ n') : Next.Keeps b n' k :=
  fun t m ht hm => h t m (hn.trans ht) hm

theorem Outcome.Keeps.failed (h : m.bounds = b) : (Outcome.failed m).Keeps b :=
  h ▸ List.prefix_rfl

theorem Outcome.Keeps.of_le {b' : List (Option Nat)} (h : o.Keeps b) (hb : b' <+: b) :
    o.Keeps b' := by
  cases o with
  | matched m => exact h
  | failed m => exact hb.trans h

theorem Outcome.Keeps.orElse {other : Memory → Outcome} (h : o.Keeps b)
    (hother : ∀ m, b <+: m.bounds → (other m).Keeps b) : (o.orElse other).Keeps b := by
  cases o with
  | matched m => exact h
  | failed m => exact hother m h

theorem Outcome.Keeps.settled (h : o.Keeps b) : (o.settled s).Keeps b :=
  h.orElse fun _ hm => hm

theorem Spot.position_le_of_mem_reach_go {ok : Char → Bool} {cs : List Char} {most : Option Nat}
    {t : Spot} {farther : List Spot} (hspots : ∀ u ∈ s :: farther, n ≤ u.position)
    (h : t ∈ reach.go ok cs most s farther) : n ≤ t.position := by
  fun_induction reach.go ok cs most s farther with
  | case1 => exact hspots t h
  | case2 => exact hspots t h
  | case3 c rest most s farther _ _ ih =>
      refine ih (fun u hu => ?_) h
      rcases List.mem_cons.mp hu with rfl | hu
      · exact (hspots s (by simp)).trans (Nat.le_succ _)
      · exact hspots u hu
  | case4 => exact hspots t h

/-- A test is repeated forwards only. -/
theorem Spot.position_le_of_mem_reach {ok : Char → Bool} {most : Option Nat} {t : Spot}
    (h : t ∈ s.reach ok most) : s.position ≤ t.position :=
  position_le_of_mem_reach_go (by simp) h

/-- Trying places one after the other keeps what going on from each of them keeps. -/
theorem tryEach_keeps {looping : Bool} {spots : List Spot} (hk : Next.Keeps b n k)
    (hspots : ∀ t ∈ spots, n ≤ t.position) (hs : saved.bounds = b) (hm : m.bounds = b) :
    (tryEach looping saved k spots m).Keeps b := by
  induction spots generalizing m with
  | nil => exact .failed hm
  | cons t rest ih =>
      have hfirst : (k t (m.moved t)).Keeps b := hk t _ (hspots t (by simp)) hm
      refine hfirst.orElse fun now hnow => ?_
      exact ih (fun u hu => hspots u (by simp [hu])) (Memory.undone_bounds hs hnow)

/-- A row of tests: characters, anchors and greedy repetitions of one test, one after the other. -/
def isRow : Pattern → Bool
  | .unit _ => true
  | .anchor _ => true
  | .span .greedy .. => true
  | .seq a b => a.isRow && b.isRow
  | _ => false

/-- A row of tests sets no bounds, so it keeps what going on after it keeps. -/
theorem run_keeps_of_isRow {p : Pattern} {f : Frame} (hp : p.isRow = true)
    (hk : Next.Keeps b s.position k) (hm : m.bounds = b) : (run p f s m k).Keeps b := by
  induction p generalizing s m k with
  | unit test =>
      cases hafter : s.after with
      | nil => simpa [run, hafter] using Outcome.Keeps.failed hm
      | cons c rest =>
          simp only [run, hafter]
          split
          · exact hk _ _ (Nat.le_succ _) hm
          · exact .failed hm
  | anchor a =>
      simp only [run]
      split
      · exact hk _ _ le_rfl hm
      · exact .failed hm
  | span greed least most test follow =>
      cases greed with
      | greedy =>
          simp only [run, runSpan, greedySpan]
          split
          · exact .failed hm
          · refine tryEach_keeps hk (fun t ht => ?_) hm hm
            exact Spot.position_le_of_mem_reach (List.mem_of_mem_take (List.mem_filter.mp ht).1)
      | lazy => simp [isRow] at hp
      | possessive => simp [isRow] at hp
  | seq first second ihf ihs =>
      simp only [isRow, Bool.and_eq_true] at hp
      exact ihf hp.1 (fun t m ht hm => ihs hp.2 (hk.mono ht) hm) hm
  | empty | never | alt | loop | capture | atomic | ahead | behind | backref | cond =>
      simp [isRow] at hp

/-- A continuation tears no group from position `n` on, whichever groups have been closed before. -/
def Next.IsWhole (n : Nat) (k : Next) : Prop :=
  ∀ b, Memory.isTorn.go b = false → Next.Keeps b n k

theorem finish_isWhole : Next.IsWhole n finish := by
  intro b hb t m _ hm
  simpa [finish, Outcome.Keeps, Memory.isTorn, hm] using hb

theorem run_isWhole_of_isRow {p : Pattern} {f : Frame} (hp : p.isRow = true)
    (hk : Next.IsWhole n k) : Next.IsWhole n fun t m => run p f t m k :=
  fun b hb _ _ ht hm => run_keeps_of_isRow hp ((hk b hb).mono ht) hm

/-- A group around a row of tests, met for the first time, is closed where it was opened or
later. -/
theorem run_capture_keeps {body : Pattern} {f : Frame} (hbody : body.isRow = true)
    (hk : Next.IsWhole s.position k) (hm : m.bounds = []) :
    (run (.capture 1 body) f s m k).Keeps [] := by
  have hopened : (m.setBound 0 s).bounds = [some s.position] := by simp [Memory.setBound, hm]
  have hclosed : Next.Keeps [some s.position] s.position fun t now => k t (now.setBound 1 t) := by
    intro t now ht hnow
    have hbounds : (now.setBound 1 t).bounds = [some s.position, some t.position] := by
      simp [Memory.setBound, hnow]
    have hwhole : Memory.isTorn.go [some s.position, some t.position] = false := by
      simpa [Memory.isTorn.go] using ht
    exact (hk _ hwhole t _ ht hbounds).of_le (by simp)
  exact (run_keeps_of_isRow hbody hclosed hopened).of_le List.nil_prefix

/-- Once no round is left, a repetition goes on with what follows it. -/
theorem manyRounds_of_none_left {body : Run} (rounds : Nat) (last : Option Nat) :
    manyRounds body rounds (some 0) last s m k = (k s (m.moved s)).settled s := by
  cases rounds <;> simp [manyRounds, mayRepeat]

/-- A body that tears no group when it is met for the first time tears none when it is optional. -/
theorem manyRounds_keeps {body : Run} (rounds : Nat)
    (hbody : ∀ k m, Next.IsWhole s.position k → m.bounds = [] → (body s m k).Keeps [])
    (hk : Next.IsWhole s.position k) (hm : m.bounds = []) :
    (manyRounds body rounds (some 1) none s m k).Keeps [] := by
  have hskip : ∀ now : Memory, now.bounds = [] → (k s now).Keeps [] :=
    fun now hnow => hk [] rfl s now le_rfl hnow
  cases rounds with
  | zero => exact (hskip (m.moved s) hm).settled
  | succ rounds =>
      -- After this round none is left, so the body goes on with what follows the repetition.
      have hnext : Next.IsWhole s.position fun t m =>
          manyRounds body rounds (some 0) (some s.position) t m k := by
        intro b hb t now ht hnow
        simp only [manyRounds_of_none_left]
        exact (hk b hb t (now.moved t) ht hnow).settled
      have hround := hbody _ (m.moved s) hnext hm
      exact (hround.orElse fun now _ => hskip (((m.moved s).undone true now).moved s) hm).settled

/-- Tests before an optional group around a row of tests, and tests after it. -/
def withOptional (before : List Pattern) (body after : Pattern) : Pattern :=
  before.foldr .seq (.seq (.loop .greedy 0 (some 1) (.capture 1 body)) after)

/-- A pattern with one optional group around a row of tests matches without tearing the group. -/
theorem run_withOptional_keeps {before : List Pattern} {body after : Pattern} {f : Frame}
    (hbefore : ∀ p ∈ before, p.isRow = true) (hbody : body.isRow = true)
    (hafter : after.isRow = true) (hm : m.bounds = []) :
    (run (withOptional before body after) f s m finish).Keeps [] := by
  induction before generalizing s m with
  | nil =>
      have hrest : Next.IsWhole s.position fun t m => run after f t m finish :=
        run_isWhole_of_isRow hafter finish_isWhole
      exact manyRounds_keeps f.rounds (fun k m hk hm => run_capture_keeps hbody hk hm) hrest hm
  | cons p rest ih =>
      have hp : p.isRow = true := hbefore p (by simp)
      have hrest : Next.Keeps [] s.position fun t m =>
          run (withOptional rest body after) f t m finish :=
        fun _ _ _ hnow => ih (fun q hq => hbefore q (by simp [hq])) hnow
      exact show (run p f s m _).Keeps [] from run_keeps_of_isRow hp hrest hm

/-- The test for one character as it is. -/
def exactly (c : Char) : CharTest := .one c.toNat false .exact

/-- The test for white space. -/
def space : CharTest := .set [.cls .space false] false false .exact

/-- The test for a quotation mark. -/
def quote : CharTest := .set [.one 39, .one 34] false false .exact

/-- The test for a character of a name: no quotation mark, no colon and no white space. -/
def nameChar : CharTest :=
  .set [.one 39, .one 34, .one 58, .cls .space false] true false .exact

/-- As many spaces as there are, before a given character if there is one. -/
def spaces (follow : Option Char) : Pattern := .span .greedy 0 none space (follow.map Char.toNat)

/-- A name, maybe in quotation marks, and a colon. -/
def namedColon : List Pattern :=
  [.anchor (.room 3), .anchor .textStart, .span .greedy 0 (some 1) quote none,
    .span .greedy 1 none nameChar none, .span .greedy 0 (some 1) quote none, spaces (some ':'),
    .unit (exactly ':'), spaces none]

/-- Parameters in parentheses and an arrow. -/
def arrow : Pattern :=
  .seq (.unit (exactly '(')) <| .seq (.span .greedy 0 none .notLineFeed (some ')'.toNat)) <|
    .seq (.unit (exactly ')')) <| .seq (spaces (some '=')) <| .seq (.unit (exactly '=')) <|
      .seq (.unit (exactly '>')) (spaces none)

/-- An opening brace, maybe after a parenthesis. -/
def opening : Pattern :=
  .seq (.span .greedy 0 (some 1) (exactly '(') (some '\x7b'.toNat)) (.unit (exactly '\x7b'))

/-- A name and a colon, maybe parameters and an arrow, and an opening brace. -/
def keyForm : Pattern := withOptional namedColon arrow opening

theorem read_defaultKeyPattern : read Config.defaultKeyPattern.toList = .ok keyForm :=
  Stages.eq_ok_of_toOption (by decide +kernel)

theorem outcome_keyForm_keeps (subject : List Char) : (keyForm.outcome subject).Keeps [] :=
  run_withOptional_keeps (by decide) rfl rfl rfl

end Foldline.Pattern

namespace Foldline.Line

/-- A match of the default pattern has no torn group, so that trying it always gives an answer. -/
theorem matchesStart_keyForm (text : List Char) :
    matchesStart Pattern.keyForm text = .ok (Pattern.keyForm.outcome text).isMatched := by
  have hkeeps := Pattern.outcome_keyForm_keeps text
  cases ho : Pattern.keyForm.outcome text with
  | matched m =>
      have hm : m.isTorn = false := by simpa [ho, Pattern.Outcome.Keeps] using hkeeps
      simp [matchesStart, ho, hm, Pattern.Outcome.isMatched]
  | failed m => simp [matchesStart, ho, Pattern.Outcome.isMatched]

theorem keyPattern_of_default {config : Config}
    (h : config.keyPattern = .text Config.defaultKeyPattern) :
    keyPattern config = .ok Pattern.keyForm := by
  simp [keyPattern, h, Pattern.read_defaultKeyPattern]

/-- The default pattern can be tried on any text. -/
theorem patternIsTotal_of_default {config : Config}
    (h : config.keyPattern = .text Config.defaultKeyPattern) : PatternIsTotal config := by
  intro p hp text
  obtain rfl : Pattern.keyForm = p := Except.ok.inj ((keyPattern_of_default h).symm.trans hp)
  exact ⟨_, matchesStart_keyForm text⟩

end Foldline.Line
