import Foldline.Proofs.KeyPattern
import Mathlib.Data.List.Basic

/-! # The texts that a pattern takes up

Matching tries one way after the other and remembers what it has done. For patterns made of tests,
greedy repetitions of a test, groups and optional parts, what is remembered never decides a try, so
that matching succeeds exactly when there is a way through: some text at the place fits the pattern,
and going on after it succeeds.

## Implementation notes

What fits is said of the text alone, together with the characters before it and after it, since
anchors look back and a repetition may look at the one character that has to follow. All ways
through a repetition are in the list of places that `Spot.reach` gives; `Spot.reach_eq` names its
members. -/

namespace Foldline.Pattern

/-- Going on at a place succeeds exactly when the place has a property, whatever is remembered. -/
def Next.Decides (k : Next) (P : Spot → Prop) : Prop := ∀ s m, (k s m).isMatched = true ↔ P s

variable {s t : Spot} {m saved : Memory} {k : Next} {P : Spot → Prop} {o : Outcome} {f : Frame}
  {ok : Char → Bool} {most : Option Nat}

namespace Outcome

theorem isMatched_orElse {other : Memory → Outcome} {Q : Prop}
    (h : ∀ m, (other m).isMatched = true ↔ Q) :
    (o.orElse other).isMatched = true ↔ o.isMatched = true ∨ Q := by
  cases o with
  | matched m => simp [orElse, isMatched]
  | failed m => simpa [orElse, isMatched] using h m

@[simp] theorem isMatched_settled : (o.settled s).isMatched = o.isMatched := by
  cases o <;> rfl

end Outcome

/-- Trying places one after the other succeeds when going on at one of them does. -/
theorem isMatched_tryEach (hk : k.Decides P) (looping : Bool) (spots : List Spot) :
    (tryEach looping saved k spots m).isMatched = true ↔ ∃ t ∈ spots, P t := by
  induction spots generalizing m with
  | nil => simp [tryEach, Outcome.isMatched]
  | cons t rest ih =>
      rw [tryEach, Outcome.isMatched_orElse fun _ => ih, hk]
      simp

namespace Spot

/-- The place after the text `u`, where `rest` is left. -/
def past (s : Spot) (u rest : List Char) : Spot where
  before := u.reverse ++ s.before
  after := rest
  position := s.position + u.length

theorem past_past (u v w rest : List Char) : (s.past u v).past w rest = s.past (u ++ w) rest := by
  simp [past, Nat.add_assoc]

theorem past_nil : s.past [] s.after = s := rfl

/-- The place `n` characters farther. -/
def farther (s : Spot) (n : Nat) : Spot := s.past (s.after.take n) (s.after.drop n)

theorem farther_zero : s.farther 0 = s := rfl

theorem farther_step {c : Char} {rest : List Char} (h : s.after = c :: rest) (n : Nat) :
    (s.step c rest).farther n = s.farther (n + 1) := by
  simp [farther, step, past, h]
  omega

/-- How many of the next characters pass a test, counted up to `most`. -/
def spanLength (ok : Char → Bool) : List Char → Option Nat → Nat
  | [], _ => 0
  | _, some 0 => 0
  | c :: rest, most => if ok c then spanLength ok rest (most.map (· - 1)) + 1 else 0

theorem le_spanLength_iff {cs : List Char} {n : Nat} :
    n ≤ spanLength ok cs most ↔
      n ≤ cs.length ∧ (∀ c ∈ cs.take n, ok c = true) ∧ ∀ b ∈ most, n ≤ b := by
  fun_induction spanLength ok cs most generalizing n with
  | case1 most =>
      simp only [Nat.le_zero, List.length_nil]
      constructor
      · rintro rfl
        simp
      · exact fun h => h.1
  | case2 cs hcs =>
      constructor
      · intro h
        simp [Nat.le_zero.mp h]
      · exact fun h => h.2.2 0 rfl
  | case3 c rest most hmost hc ih =>
      cases n with
      | zero => simp
      | succ n =>
          rw [Nat.add_le_add_iff_right, ih]
          cases most with
          | none => simp [hc]
          | some b =>
              have hb : b ≠ 0 := fun h => hmost (by simp [h])
              have hle : n ≤ b - 1 ↔ n + 1 ≤ b := by omega
              simp [hc, hle]
  | case4 c rest most hmost hc =>
      cases n with
      | zero => simp
      | succ n => simp [hc]

theorem reach_go_eq {cs : List Char} {spots : List Spot} (h : s.after = cs) :
    reach.go ok cs most s spots =
      (List.range (spanLength ok cs most + 1)).reverse.map s.farther ++ spots := by
  fun_induction reach.go ok cs most s spots with
  | case1 most s spots => simp [spanLength, farther_zero]
  | case2 cs s spots hcs => simp [spanLength, farther_zero]
  | case3 c rest most s spots hmost hc ih =>
      -- One character on, every place is one character closer.
      have hstep : (s.step c rest).farther = s.farther ∘ Nat.succ := funext (farther_step h)
      have hlength : spanLength ok (c :: rest) most =
          spanLength ok rest (most.map (· - 1)) + 1 := by
        rw [spanLength, if_pos hc]
        exact hmost
      have hrange : List.range (spanLength ok (c :: rest) most + 1) =
          0 :: (List.range (spanLength ok (c :: rest) most)).map Nat.succ := List.range_succ_eq_map
      rw [ih rfl, hrange, hlength, hstep]
      simp [farther_zero]
  | case4 c rest most s spots hmost hc =>
      have hlength : spanLength ok (c :: rest) most = 0 := by
        rw [spanLength, if_neg hc]
        exact hmost
      simp [hlength, farther_zero]

/-- The places that a repeated test reaches, the farthest first. -/
theorem reach_eq : s.reach ok most =
    (List.range (spanLength ok s.after most + 1)).reverse.map s.farther := by
  rw [reach, reach_go_eq rfl, List.append_nil]

/-- All but the nearest `least` places are those after at least so many characters. -/
theorem mem_take_reach_iff {least : Nat} :
    t ∈ (s.reach ok most).take ((s.reach ok most).length - least) ↔
      ∃ n, least ≤ n ∧ n ≤ spanLength ok s.after most ∧ t = s.farther n := by
  have hmem : ∀ n, n ∈ (List.range (spanLength ok s.after most + 1)).reverse.take
        (spanLength ok s.after most + 1 - least) ↔
      least ≤ n ∧ n ≤ spanLength ok s.after most := by
    intro n
    simp only [List.mem_take_iff_getElem, List.length_reverse, List.length_range,
      List.getElem_reverse, List.getElem_range]
    constructor
    · rintro ⟨j, hj, rfl⟩
      omega
    · intro h
      exact ⟨spanLength ok s.after most - n, by omega, by omega⟩
  rw [reach_eq, ← List.map_take, List.mem_map]
  simp only [List.length_map, List.length_reverse, List.length_range, hmem, and_assoc,
    @eq_comm _ t]

end Spot

/-- The next character has the code point that has to come next, if one has to. -/
def IsFollowed (follow : Option Nat) (rest : List Char) : Prop :=
  ∀ code ∈ follow, ∃ c ∈ rest.head?, c.toNat = code

/-- The pattern takes up the text `u`, where `before` are the characters before it, last one first,
and `rest` those after it. -/
def Fits : Pattern → (before u rest : List Char) → Prop
  | .unit test, _, u, _ => ∃ c, u = [c] ∧ test.accepts c = true
  | .anchor a, before, u, rest => u = [] ∧ a.holds { before, after := rest } = true
  | .span .greedy least most test follow, _, u, rest =>
      (∀ c ∈ u, test.accepts c = true) ∧ least ≤ u.length ∧ (∀ n ∈ most, u.length ≤ n) ∧
        IsFollowed follow rest
  | .seq a b, before, u, rest =>
      ∃ v w, u = v ++ w ∧ a.Fits before v (w ++ rest) ∧ b.Fits (v.reverse ++ before) w rest
  | .loop .greedy 0 (some 1) body, before, u, rest => u = [] ∨ body.Fits before u rest
  | .capture _ body, before, u, rest => body.Fits before u rest
  | _, _, _, _ => False

/-- What is remembered never decides a try: the pattern is made of tests, greedy repetitions of a
test, groups and optional parts. -/
def isForgetful : Pattern → Bool
  | .unit _ => true
  | .anchor _ => true
  | .span .greedy .. => true
  | .seq a b => a.isForgetful && b.isForgetful
  | .loop .greedy 0 (some 1) body => body.isForgetful
  | .capture _ body => body.isForgetful
  | _ => false

/-- The pattern leads from one place to another. -/
def Leads (p : Pattern) (s t : Spot) : Prop :=
  ∃ u rest, s.after = u ++ rest ∧ p.Fits s.before u rest ∧ t = s.past u rest

theorem isShorter_eq_true_iff {cs : List Char} {n : Nat} :
    isShorter cs n = true ↔ cs.length < n := by
  induction cs generalizing n with
  | nil => cases n <;> simp [isShorter]
  | cons c cs ih => cases n <;> simp [isShorter, ih]

theorem isFollowed_eq_true_iff {follow : Option Nat} :
    isFollowed follow s = true ↔ IsFollowed follow s.after := by
  cases follow <;> cases hafter : s.after <;> simp [isFollowed, IsFollowed, hafter]

/-- An anchor does not look at the number of the place. -/
theorem Anchor.holds_eq (a : Anchor) :
    a.holds s = a.holds { before := s.before, after := s.after } := by
  cases a <;> rfl

/-- A repetition leads to the places after enough characters that pass the test. -/
theorem leads_span_iff {least : Nat} {test : CharTest} {follow : Option Nat} :
    Leads (.span .greedy least most test follow) s t ↔
      ∃ n, least ≤ n ∧ n ≤ Spot.spanLength test.accepts s.after most ∧
        IsFollowed follow t.after ∧ t = s.farther n := by
  constructor
  · rintro ⟨u, rest, hafter, ⟨hall, hleast, hmost, hfollow⟩, rfl⟩
    refine ⟨u.length, hleast, Spot.le_spanLength_iff.mpr ?_, hfollow, ?_⟩
    · simpa [hafter] using ⟨hall, hmost⟩
    · simp [Spot.farther, hafter]
  · rintro ⟨n, hleast, hn, hfollow, rfl⟩
    obtain ⟨hlength, hall, hmost⟩ := Spot.le_spanLength_iff.mp hn
    have htake : (s.after.take n).length = n := List.length_take_of_le hlength
    refine ⟨s.after.take n, s.after.drop n, (List.take_append_drop n s.after).symm, ?_, rfl⟩
    exact ⟨hall, by rwa [htake], by rwa [htake], hfollow⟩

/-- A greedy repetition succeeds when going on after some number of its characters does. -/
theorem isMatched_greedySpan (hk : k.Decides P) (looping : Bool) (least : Nat) (test : CharTest)
    (follow : Option Nat) :
    (greedySpan looping least most test follow s m k).isMatched = true ↔
      ∃ t, Leads (.span .greedy least most test follow) s t ∧ P t := by
  simp only [greedySpan, isMatched_tryEach hk, List.mem_filter, Spot.mem_take_reach_iff,
    isFollowed_eq_true_iff, leads_span_iff]
  constructor
  · rintro ⟨t, ⟨⟨n, hleast, hn, ht⟩, hfollow⟩, hP⟩
    exact ⟨t, ⟨n, hleast, hn, hfollow, ht⟩, hP⟩
  · rintro ⟨t, ⟨n, hleast, hn, hfollow, ht⟩, hP⟩
    exact ⟨t, ⟨⟨n, hleast, hn, ht⟩, hfollow⟩, hP⟩

theorem leads_unit_iff {test : CharTest} : Leads (.unit test) s t ↔
    ∃ c rest, s.after = c :: rest ∧ test.accepts c = true ∧ t = s.step c rest := by
  constructor
  · rintro ⟨_, rest, hafter, ⟨c, rfl, hc⟩, rfl⟩
    exact ⟨c, rest, hafter, hc, rfl⟩
  · rintro ⟨c, rest, hafter, hc, rfl⟩
    exact ⟨[c], rest, hafter, ⟨c, rfl, hc⟩, rfl⟩

theorem leads_anchor_iff {a : Anchor} : Leads (.anchor a) s t ↔ a.holds s = true ∧ t = s := by
  constructor
  · rintro ⟨_, rest, hafter, ⟨rfl, ha⟩, rfl⟩
    obtain rfl : s.after = rest := hafter
    exact ⟨a.holds_eq.trans ha, Spot.past_nil⟩
  · rintro ⟨ha, rfl⟩
    exact ⟨[], _, rfl, ⟨rfl, a.holds_eq.symm.trans ha⟩, rfl⟩

/-- An optional part leads nowhere else or where the part leads. -/
theorem leads_optional_iff {body : Pattern} :
    Leads (.loop .greedy 0 (some 1) body) s t ↔ t = s ∨ Leads body s t := by
  constructor
  · rintro ⟨u, rest, hafter, rfl | hbody, rfl⟩
    · obtain rfl : s.after = rest := hafter
      exact .inl Spot.past_nil
    · exact .inr ⟨u, rest, hafter, hbody, rfl⟩
  · rintro (rfl | ⟨u, rest, hafter, hbody, rfl⟩)
    · exact ⟨[], _, rfl, .inl rfl, rfl⟩
    · exact ⟨u, rest, hafter, .inr hbody, rfl⟩

theorem leads_seq_iff {a b : Pattern} : Leads (.seq a b) s t ↔ ∃ r, Leads a s r ∧ Leads b r t := by
  constructor
  · rintro ⟨u, rest, hafter, ⟨v, w, rfl, ha, hb⟩, rfl⟩
    refine ⟨s.past v (w ++ rest), ⟨v, w ++ rest, by simpa using hafter, ha, rfl⟩, ?_⟩
    exact ⟨w, rest, rfl, hb, (Spot.past_past v _ w rest).symm⟩
  · rintro ⟨-, ⟨v, after, hafter, ha, rfl⟩, ⟨w, rest, hrest, hb, rfl⟩⟩
    obtain rfl : after = w ++ rest := hrest
    exact ⟨v ++ w, rest, by simpa using hafter, ⟨v, w, rfl, ha, hb⟩, Spot.past_past v _ w rest⟩

/-- An optional part is left out or taken once. -/
theorem isMatched_manyRounds {body : Run} {Q : Spot → Spot → Prop} {rounds : Nat}
    (hbody : ∀ {k P}, k.Decides P → ∀ s m, (body s m k).isMatched = true ↔ ∃ t, Q s t ∧ P t)
    (hrounds : 0 < rounds) (hk : k.Decides P) :
    (manyRounds body rounds (some 1) none s m k).isMatched = true ↔ P s ∨ ∃ t, Q s t ∧ P t := by
  obtain ⟨rounds, rfl⟩ := Nat.exists_eq_add_one_of_ne_zero hrounds.ne'
  have hnext : Next.Decides
      (fun t m => manyRounds body rounds (some 0) (some s.position) t m k) P := by
    intro t m
    simp only [manyRounds_of_none_left, Outcome.isMatched_settled]
    exact hk t _
  have hmay : mayRepeat (some 1) none s = true := by simp [mayRepeat]
  simp only [manyRounds, hmay, if_true, Outcome.isMatched_settled]
  rw [Outcome.isMatched_orElse fun now => hk s _]
  exact (or_congr_left (hbody hnext s _)).trans or_comm

/-- A forgetful pattern succeeds exactly when it leads to a place where going on does. -/
theorem isMatched_run_iff {p : Pattern} (hp : p.isForgetful = true) (hf : 0 < f.rounds)
    (hk : k.Decides P) : (run p f s m k).isMatched = true ↔ ∃ t, p.Leads s t ∧ P t := by
  fun_induction isForgetful p generalizing s m k f P with
  | case1 test =>
      simp only [leads_unit_iff]
      cases hafter : s.after with
      | nil => simp [run, hafter, Outcome.isMatched]
      | cons c rest =>
          cases hc : test.accepts c with
          | true => simp [run, hafter, hc, hk (s.step c rest) m]
          | false => simp [run, hafter, hc, Outcome.isMatched]
  | case2 a =>
      simp only [leads_anchor_iff]
      cases ha : a.holds s with
      | true => simp [run, ha, hk s m]
      | false => simp [run, ha, Outcome.isMatched]
  | case3 least most test follow =>
      simp only [run, runSpan]
      split
      · rename_i hshort
        -- With too few characters left there is no way through, and none is tried.
        have hlength : s.after.length < least := isShorter_eq_true_iff.mp hshort
        simp only [leads_span_iff, Outcome.isMatched, Bool.false_eq_true, false_iff]
        rintro ⟨t, ⟨n, hleast, hn, -⟩, -⟩
        have hle : n ≤ s.after.length := (Spot.le_spanLength_iff.mp hn).1
        omega
      · exact isMatched_greedySpan hk f.looping least test follow
  | case4 a b iha ihb =>
      obtain ⟨ha, hb⟩ := Bool.and_eq_true_iff.mp hp
      have hrest : Next.Decides (fun t m => run b f t m k) fun r => ∃ t, b.Leads r t ∧ P t :=
        fun r m => ihb hb hf hk
      rw [run, iha ha hf hrest]
      simp only [leads_seq_iff]
      constructor
      · rintro ⟨r, hr, t, ht, hP⟩
        exact ⟨t, ⟨r, hr, ht⟩, hP⟩
      · rintro ⟨t, ⟨r, hr, ht⟩, hP⟩
        exact ⟨r, hr, t, ht, hP⟩
  | case5 body ih =>
      have hbody : ∀ {k P}, Next.Decides k P → ∀ s m,
          (run body (f.inside .greedy) s m k).isMatched = true ↔ ∃ t, body.Leads s t ∧ P t :=
        fun hk s m => ih hp hf hk
      simp only [run, runLoop, times, leads_optional_iff]
      rw [Option.map_some, isMatched_manyRounds hbody hf hk]
      simp only [or_and_right, exists_or, exists_eq_left]
  | case6 group body ih =>
      have hclosed : Next.Decides (fun t m => k t (m.setBound (2 * group - 1) t)) P :=
        fun t m => hk t _
      rw [run, ih hp hf hclosed]
      rfl
  | case7 => cases hp

/-- A forgetful pattern matches a subject exactly when a text at its start fits. -/
theorem isMatched_outcome_iff {p : Pattern} (hp : p.isForgetful = true) (subject : List Char) :
    (p.outcome subject).isMatched = true ↔ ∃ u rest, subject = u ++ rest ∧ p.Fits [] u rest := by
  have hfinish : Next.Decides finish fun _ => True := fun s m => by simp [finish, Outcome.isMatched]
  rw [outcome, isMatched_run_iff hp (Nat.succ_pos _) hfinish]
  constructor
  · rintro ⟨t, ⟨u, rest, hafter, hfits, -⟩, -⟩
    exact ⟨u, rest, hafter, hfits⟩
  · rintro ⟨u, rest, hafter, hfits⟩
    exact ⟨_, ⟨u, rest, hafter, hfits, rfl⟩, trivial⟩

end Foldline.Pattern
