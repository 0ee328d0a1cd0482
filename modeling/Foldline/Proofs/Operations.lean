import Foldline.Proofs.Closing
import Mathlib.Data.List.Basic
import Mathlib.Data.List.Induction

/-! # Rows of operations

The operations of a walk can be done in any order and with any numbers, not only as a walk over a
document does them. What a row of them leads to can be read off from the row. A block is open when
the last turn, that is the last operation that enters or closes a block, has entered one; the
candidates of the block are those kept since then. Each closing whose last turn before it has
entered a block adds the region of that block, and nothing else adds a region. -/

namespace Foldline

namespace Scan

namespace Operation

/-- Whether an operation is no turn: it keeps a candidate. -/
def isNote : Operation → Bool
  | .note _ _ => true
  | _ => false

def candidate? : Operation → Option Candidate
  | .note line column => some ⟨line, column⟩
  | _ => none

/-- The last of some operations that enters or closes a block. -/
def lastTurn? (ops : List Operation) : Option Operation := ops.reverse.find? fun op => !op.isNote

/-- The candidates kept since the last turn, in order. -/
def candidatesSince (ops : List Operation) : List Candidate :=
  (ops.reverse.takeWhile isNote).reverse.filterMap candidate?

/-- No block is open after some operations: there was no turn, or the last one was a closing. -/
def IsIdle (ops : List Operation) : Prop :=
  ∀ line column, lastTurn? ops ≠ some (.enter line column)

/-- The region that an operation adds after those in `past`: a closing adds one if the last turn has
entered a block. -/
def region? (past : List Operation) (op : Operation) : Option Region :=
  match op, lastTurn? past with
  | .close stop, some (.enter line column) =>
      some { start := line, stop, column, keyLines := shallowest (candidatesSince past) }
  | _, _ => none

/-- The regions that a row of operations adds, in order. -/
def regionsOf (ops : List Operation) : List Region :=
  (List.range ops.length).filterMap fun i => ops[i]?.bind (region? (ops.take i))

variable {past ops : List Operation} {op : Operation} {line column stop : Int}

@[simp] theorem lastTurn?_concat_note :
    lastTurn? (past ++ [.note line column]) = lastTurn? past := by
  simp [lastTurn?, isNote]

theorem lastTurn?_concat (h : op.isNote = false) : lastTurn? (past ++ [op]) = some op := by
  simp [lastTurn?, h]

@[simp] theorem candidatesSince_concat_note :
    candidatesSince (past ++ [.note line column]) = candidatesSince past ++ [⟨line, column⟩] := by
  have hnote : isNote (.note line column) = true := rfl
  simp [candidatesSince, hnote, candidate?]

theorem candidatesSince_concat (h : op.isNote = false) : candidatesSince (past ++ [op]) = [] := by
  simp [candidatesSince, h]

/-- After the last turn there are candidates only. -/
theorem exists_of_lastTurn?_eq_some (h : lastTurn? ops = some op) :
    ∃ before notes, ops = before ++ op :: notes ∧ ∀ n ∈ notes, n.isNote = true := by
  obtain ⟨-, later, earlier, hops, hnotes⟩ := List.find?_eq_some_iff_append.mp h
  refine ⟨earlier.reverse, later.reverse, ?_, ?_⟩
  · rw [← List.reverse_reverse ops, hops]
    simp
  · intro n hn
    simpa using hnotes n (List.mem_reverse.mp hn)

theorem entered_or_isIdle (ops : List Operation) :
    (∃ line column, lastTurn? ops = some (.enter line column)) ∨ IsIdle ops := by
  by_cases h : ∃ line column, lastTurn? ops = some (.enter line column)
  · exact .inl h
  · exact .inr fun line column hturn => h ⟨line, column, hturn⟩

theorem isIdle_concat_close (past : List Operation) (stop : Int) :
    IsIdle (past ++ [.close stop]) := by
  intro line column hturn
  rw [lastTurn?_concat rfl] at hturn
  cases hturn

theorem region?_close_of_entered (h : lastTurn? past = some (.enter line column)) :
    region? past (.close stop) =
      some ⟨line, stop, column, shallowest (candidatesSince past)⟩ := by
  simp only [region?, h]

theorem region?_close_of_isIdle (h : IsIdle past) : region? past (.close stop) = none := by
  unfold region?
  split
  · rename_i line column _ hturn
    exact absurd hturn (h line column)
  · rfl

/-- One operation more adds its region, if it has one. -/
theorem regionsOf_concat (past : List Operation) (op : Operation) :
    regionsOf (past ++ [op]) = regionsOf past ++ (region? past op).toList := by
  have hbefore : ∀ i ∈ List.range past.length,
      (past ++ [op])[i]?.bind (region? ((past ++ [op]).take i)) =
        past[i]?.bind (region? (past.take i)) := by
    intro i hi
    have hlt : i < past.length := List.mem_range.mp hi
    rw [List.getElem?_append_left hlt, List.take_append_of_le_length (Nat.le_of_lt hlt)]
  unfold regionsOf
  rw [List.length_append, List.length_singleton, List.range_succ, List.filterMap_append,
    List.filterMap_congr hbefore]
  cases hregion : region? past op <;> simp [hregion]

end Operation

open Operation

variable {d : Document} {past ops front back notes : List Operation} {op : Operation}
  {line column stop : Int} {s t : Scan}

/-! ## Operations one after the other -/

variable (d ops) in
/-- Do some operations one after the other, without a watch. -/
def performAll : Action Unit := forM ops (perform d false)

variable (d ops) in
/-- What some operations lead to from the start. -/
def replay : EStateM.Result Fault Scan Unit := (performAll d ops).run {}

theorem run_performAll_cons (back : List Operation) (h : (perform d false op).run s = .ok () t) :
    (performAll d (op :: back)).run s = (performAll d back).run t := by
  rw [performAll, List.forM_cons, EStateM.run_bind, h]
  rfl

theorem run_performAll_append (back : List Operation)
    (h : (performAll d front).run s = .ok () t) :
    (performAll d (front ++ back)).run s = (performAll d back).run t := by
  rw [performAll] at h
  rw [performAll, List.forM_append, EStateM.run_bind, h]
  rfl

/-- One operation more, in the state that the operations before it lead to. -/
theorem replay_append_cons (back : List Operation) (hfront : replay d front = .ok () s)
    (h : (perform d false op).run s = .ok () t) :
    replay d (front ++ op :: back) = (performAll d back).run t :=
  (run_performAll_append _ hfront).trans (run_performAll_cons back h)

theorem run_enter : (perform d false (.enter line column)).run s = .ok () (s.enter line column) :=
  rfl

theorem run_note : (perform d false (.note line column)).run s = .ok () (s.note line column) := rfl

/-- Without a watch no operation fails. -/
theorem exists_run_perform (d : Document) (op : Operation) (s : Scan) :
    ∃ t, (perform d false op).run s = .ok () t := by
  cases op with
  | enter line column => exact ⟨_, run_enter⟩
  | note line column => exact ⟨_, run_note⟩
  | close stop =>
      rcases closeBlock_cases d false stop s with
        ⟨-, hrun⟩ | ⟨start, -, -, ⟨mixed, -, -, hrun⟩ | ⟨e, ⟨hwatched, -⟩, -⟩⟩
      · exact ⟨_, hrun⟩
      · exact ⟨_, hrun⟩
      · cases hwatched

/-! ## What a state tells of the operations before it -/

variable (past s) in
/-- The state `s` is what the operations in `past` lead to from the start. -/
structure Reflects : Prop where
  entered : ∀ line column, lastTurn? past = some (.enter line column) →
    s.context = ⟨.inside, some line, column, candidatesSince past⟩
  idle : IsIdle past → s.context.state = .outside ∧ s.context.start = none
  regions : s.regions = regionsOf past

theorem reflects_empty : Reflects [] {} where
  entered := nofun
  idle := fun _ => ⟨rfl, rfl⟩
  regions := rfl

theorem Reflects.regions_concat (h : s.Reflects past) (hnone : region? past op = none) :
    s.regions = regionsOf (past ++ [op]) := by
  rw [regionsOf_concat, hnone, Option.toList_none, List.append_nil]
  exact h.regions

theorem Reflects.enter (h : s.Reflects past) (line column : Int) :
    (s.enter line column).Reflects (past ++ [.enter line column]) where
  entered := by
    intro line' column' hturn
    rw [lastTurn?_concat rfl] at hturn
    obtain ⟨rfl, rfl⟩ := Operation.enter.inj (Option.some.inj hturn)
    rw [candidatesSince_concat rfl]
    rfl
  idle := fun hidle => absurd (lastTurn?_concat rfl) (hidle line column)
  regions := h.regions_concat rfl

theorem Reflects.note (h : s.Reflects past) (line column : Int) :
    (s.note line column).Reflects (past ++ [.note line column]) where
  entered := by
    intro line' column' hturn
    rw [lastTurn?_concat_note] at hturn
    rw [candidatesSince_concat_note, Scan.note, h.entered line' column' hturn]
  idle := by
    rw [IsIdle, lastTurn?_concat_note]
    exact h.idle
  regions := h.regions_concat rfl

/-- Closing adds the region of the block that the last turn has entered. -/
theorem Reflects.close_of_entered (h : s.Reflects past)
    (hturn : lastTurn? past = some (.enter line column)) (d : Document) (stop : Int) :
    ∃ t, (closeBlock d false stop).run s = .ok () t ∧ t.Reflects (past ++ [.close stop]) := by
  have hcontext := h.entered line column hturn
  have hstate : s.context.state = .inside := by rw [hcontext]
  have hstart : s.context.start = some line := by rw [hcontext]
  refine ⟨_, run_closeBlock_unwatched hstate hstart, ?_, fun _ => ⟨rfl, rfl⟩, ?_⟩
  · intro line' column' hentered
    exact absurd hentered (isIdle_concat_close past stop line' column')
  · rw [regionsOf_concat, region?_close_of_entered hturn, closed, hcontext, h.regions,
      topLevel_eq_shallowest]
    rfl

/-- Without an open block closing does nothing. -/
theorem Reflects.run_close_of_isIdle (h : s.Reflects past) (hidle : IsIdle past) (d : Document)
    (stop : Int) : (closeBlock d false stop).run s = .ok () s :=
  run_closeBlock_of_outside (.inr (h.idle hidle).2)

theorem Reflects.close_of_isIdle (h : s.Reflects past) (hidle : IsIdle past) (stop : Int) :
    s.Reflects (past ++ [.close stop]) where
  entered := fun line column hentered =>
    absurd hentered (isIdle_concat_close past stop line column)
  idle := fun _ => h.idle hidle
  regions := h.regions_concat (region?_close_of_isIdle hidle)

/-- One more operation leads from what the operations before lead to on to what all of them do. -/
theorem Reflects.perform (h : s.Reflects past) (d : Document) (op : Operation) :
    ∃ t, (perform d false op).run s = .ok () t ∧ t.Reflects (past ++ [op]) := by
  cases op with
  | enter line column => exact ⟨_, run_enter, h.enter line column⟩
  | note line column => exact ⟨_, run_note, h.note line column⟩
  | close stop =>
      rcases entered_or_isIdle past with ⟨line, column, hturn⟩ | hidle
      · exact h.close_of_entered hturn d stop
      · exact ⟨s, h.run_close_of_isIdle hidle d stop, h.close_of_isIdle hidle stop⟩

/-- All operations done from the start lead to a state that reflects them. -/
theorem replay_reflects (d : Document) (ops : List Operation) :
    ∃ s, replay d ops = .ok () s ∧ s.Reflects ops := by
  -- From the end: what an operation does depends on the row before it.
  induction ops using List.reverseRecOn with
  | nil => exact ⟨{}, rfl, reflects_empty⟩
  | append_singleton past op ih =>
      obtain ⟨s, hs, hreflects⟩ := ih
      obtain ⟨t, ht, hnext⟩ := hreflects.perform d op
      exact ⟨t, replay_append_cons [] hs ht, hnext⟩

/-- A block is open when it has a start. -/
theorem Reflects.inside_iff (h : s.Reflects past) :
    s.context.state = .inside ↔ s.context.start ≠ none := by
  rcases entered_or_isIdle past with ⟨line, column, hturn⟩ | hidle
  · simp [h.entered line column hturn]
  · simp [h.idle hidle]

/-- Inside of a block, the last turn has entered it. -/
theorem Reflects.entered_of_inside (h : s.Reflects past) (hs : s.context.state = .inside) :
    ∃ line column, lastTurn? past = some (.enter line column) := by
  rcases entered_or_isIdle past with hentered | hidle
  · exact hentered
  · rw [(h.idle hidle).1] at hs
    cases hs

/-! ## Operations that leave nothing behind -/

/-- A closing that adds no region changes nothing. -/
theorem replay_concat_close (d : Document) (h : region? past (.close stop) = none) :
    replay d (past ++ [.close stop]) = replay d past := by
  obtain ⟨s, hs, hreflects⟩ := replay_reflects d past
  rcases entered_or_isIdle past with ⟨line, column, hturn⟩ | hidle
  · rw [region?_close_of_entered hturn] at h
    cases h
  · have hclose := hreflects.run_close_of_isIdle hidle d stop
    rw [hs]
    exact replay_append_cons [] hs hclose

/-- Two states that are the same or differ in what is kept outside of a block. -/
def Alike (s t : Scan) : Prop :=
  t = s ∨ s.context.state = .outside ∧
    ∃ context : Context, context.state = .outside ∧ t = { s with context }

theorem Alike.regions (h : s.Alike t) : t.regions = s.regions := by
  rcases h with rfl | ⟨-, context, -, rfl⟩ <;> rfl

/-- Every operation leads from states that are alike to states that are alike. -/
theorem Alike.perform (h : s.Alike t) (d : Document) (op : Operation) :
    ∃ s' t', (perform d false op).run s = .ok () s' ∧ (perform d false op).run t = .ok () t' ∧
      s'.Alike t' := by
  rcases h with rfl | ⟨hs, context, hcontext, rfl⟩
  · obtain ⟨t', ht'⟩ := exists_run_perform d op t
    exact ⟨t', t', ht', ht', .inl rfl⟩
  · cases op with
    | enter line column => exact ⟨_, _, run_enter, run_enter, .inl rfl⟩
    | note line column =>
        refine ⟨_, _, run_note, run_note, .inr ⟨hs, ?_⟩⟩
        exact ⟨{ context with candidates := context.candidates ++ [⟨line, column⟩] }, hcontext, rfl⟩
    | close stop =>
        have hout : s.context.state ≠ .inside := by simp [hs]
        have hout' : context.state ≠ .inside := by simp [hcontext]
        exact ⟨_, _, run_closeBlock_of_outside (.inl hout), run_closeBlock_of_outside (.inl hout'),
          .inr ⟨hs, context, hcontext, rfl⟩⟩

theorem Alike.performAll (h : s.Alike t) (d : Document) (ops : List Operation) :
    ∃ s' t', (performAll d ops).run s = .ok () s' ∧ (performAll d ops).run t = .ok () t' ∧
      s'.Alike t' := by
  induction ops generalizing s t with
  | nil => exact ⟨s, t, rfl, rfl, h⟩
  | cons op rest ih =>
      obtain ⟨u, v, hu, hv, huv⟩ := h.perform d op
      rw [run_performAll_cons rest hu, run_performAll_cons rest hv]
      exact ih huv

/-- Without a candidate that is kept outside of a block the same regions are found. -/
theorem replay_without_note {u : Scan} (hfront : replay d front = .ok () t)
    (ht : t.context.state = .outside)
    (h : replay d (front ++ .note line column :: back) = .ok () u) :
    ∃ v, replay d (front ++ back) = .ok () v ∧ v.regions = u.regions := by
  have halike : (t.note line column).Alike t := .inr ⟨ht, t.context, ht, rfl⟩
  obtain ⟨u', v, hu', hv, huv⟩ := halike.performAll d back
  rw [replay_append_cons back hfront run_note, hu'] at h
  obtain ⟨-, rfl⟩ := EStateM.Result.ok.inj h
  exact ⟨v, (run_performAll_append back hfront).trans hv, huv.regions⟩

/-- Candidates are forgotten when a block is entered. -/
theorem run_performAll_notes (d : Document) (h : ∀ n ∈ notes, n.isNote = true) (s : Scan) :
    ∃ t, (performAll d notes).run s = .ok () t ∧
      ∀ line column, t.enter line column = s.enter line column := by
  induction notes generalizing s with
  | nil => exact ⟨s, rfl, fun _ _ => rfl⟩
  | cons n rest ih =>
      obtain ⟨hn, hrest⟩ := List.forall_mem_cons.mp h
      cases n with
      | enter line column => cases hn
      | close stop => cases hn
      | note line column =>
          obtain ⟨t, ht, hsame⟩ := ih hrest (s.note line column)
          exact ⟨t, (run_performAll_cons rest run_note).trans ht, hsame⟩

/-- A block that is entered and not closed before the next one is entered leaves nothing behind. -/
theorem replay_enter_enter {start startColumn : Int} (d : Document) (front back : List Operation)
    (h : ∀ n ∈ notes, n.isNote = true) :
    replay d (front ++ .enter start startColumn :: notes ++ .enter line column :: back) =
      replay d (front ++ .enter line column :: back) := by
  obtain ⟨s, hs, -⟩ := replay_reflects d front
  obtain ⟨t, ht, hsame⟩ := run_performAll_notes d h (s.enter start startColumn)
  have hopen : replay d (front ++ .enter start startColumn :: notes) = .ok () t :=
    (replay_append_cons notes hs run_enter).trans ht
  calc replay d (front ++ .enter start startColumn :: notes ++ .enter line column :: back)
    _ = (performAll d back).run (t.enter line column) := replay_append_cons back hopen run_enter
    _ = (performAll d back).run (s.enter line column) := by rw [hsame]; rfl
    _ = replay d (front ++ .enter line column :: back) :=
        (replay_append_cons back hs run_enter).symm

variable (d ops s) in
/-- What the state `s` after the operations `ops` has of each of them. -/
structure Records : Prop where
  /-- After each operation, a block is open exactly when there is a line where it starts. -/
  inside_iff : ∀ front back, ops = front ++ back → ∃ t, replay d front = .ok () t ∧
    (t.context.state = .inside ↔ t.context.start ≠ none)
  /-- There is one region for each closing whose last turn before it has entered a block. -/
  regions : s.regions = regionsOf ops
  /-- A closing that adds no region changes nothing. -/
  idle_close : ∀ front stop back, ops = front ++ .close stop :: back →
    region? front (.close stop) = none → replay d (front ++ [.close stop]) = replay d front
  /-- A candidate that is kept outside of a block gets into no region. -/
  idle_note : ∀ front line column back t, ops = front ++ .note line column :: back →
    replay d front = .ok () t → t.context.state = .outside →
      ∃ u, replay d (front ++ back) = .ok () u ∧ u.regions = s.regions
  /-- A block that is open when another one is entered leaves nothing behind. -/
  given_up : ∀ front line column back t, ops = front ++ .enter line column :: back →
    replay d front = .ok () t → t.context.state = .inside →
      ∃ before start startColumn notes, front = before ++ .enter start startColumn :: notes ∧
        (∀ n ∈ notes, n.isNote = true) ∧ replay d (before ++ .enter line column :: back) = .ok () s

/-- Operations that are not watched never fail, in whatever order and with whatever numbers they are
done from the start, and the state that they lead to records them. -/
theorem replay_records (d : Document) (ops : List Operation) :
    ∃ s, replay d ops = .ok () s ∧ s.Records d ops := by
  obtain ⟨s, hs, hreflects⟩ := replay_reflects d ops
  refine ⟨s, hs, ?_, hreflects.regions, ?_, ?_, ?_⟩
  · intro front back _
    obtain ⟨t, ht, hfront⟩ := replay_reflects d front
    exact ⟨t, ht, hfront.inside_iff⟩
  · intro front stop back _ hnone
    exact replay_concat_close d hnone
  · rintro front line column back t rfl hfront ht
    exact replay_without_note hfront ht hs
  · rintro front line column back t rfl hfront ht
    obtain ⟨u, hu, hbefore⟩ := replay_reflects d front
    obtain ⟨-, rfl⟩ := EStateM.Result.ok.inj (hfront.symm.trans hu)
    obtain ⟨start, startColumn, hturn⟩ := hbefore.entered_of_inside ht
    obtain ⟨before, notes, rfl, hnotes⟩ := exists_of_lastTurn?_eq_some hturn
    exact ⟨before, start, startColumn, notes, rfl, hnotes,
      (replay_enter_enter d before back hnotes).symm.trans hs⟩

-- A candidate without a block, a block that is given up, and a second closing that does nothing.
example (d : Document) :
    replay d [.note 1 0, .enter 2 0, .note 3 1, .enter 4 0, .note 5 8, .note 6 4, .note 7 4,
      .close 8, .note 9 0, .close 10] =
        .ok () { context := { candidates := [⟨9, 0⟩] }, regions := [⟨4, 8, 0, [6, 7]⟩] } := rfl

end Scan

end Foldline
