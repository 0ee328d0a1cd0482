import Foldline.Proofs.Watching

/-! # Documents drawn anew

A document is drawn anew when each of its lines is written again with the same kind, all of them
moved to the right by the same width, and blank lines are put in anywhere. A walk over the new lines
goes step by step as one over the old lines, except that it stands still at the blank lines put in.
So it finds the same blocks: their lines are renumbered, their columns grow by the width, and a line
that cannot be classified ends both walks with the same fault.

The case of one blank line put in somewhere is spelled out at the end. -/

namespace Foldline

/-- A region with its lines renumbered by `f` and its column moved by `w`. -/
def Region.redraw (f : Int → Int) (w : Int) (r : Region) : Region :=
  { start := f r.start
    stop := f r.stop
    column := r.column + w
    keyLines := r.keyLines.map f }

theorem Region.redraw_zero (f : Int → Int) :
    Region.redraw f 0 = fun r => ⟨f r.start, f r.stop, r.column, r.keyLines.map f⟩ := by
  funext r
  rw [Region.redraw, Int.add_zero]

theorem Region.redraw_id (w : Int) :
    Region.redraw id w = fun r => { r with column := r.column + w } := by
  funext r
  rw [Region.redraw, List.map_id]
  rfl

namespace Scan

variable {config : Config} {d e : Document} {f : Int → Int} {w i j : Nat} {s : Scan}
  {line line' : Line} {rest rest' : List Line}

def Candidate.redraw (f : Int → Int) (w : Int) (c : Candidate) : Candidate :=
  ⟨f c.line, c.column + w⟩

/-- The column and the candidates of a context mean something only inside a block. -/
def Context.redraw (f : Int → Int) (w : Int) (c : Context) : Context :=
  if c.state = .inside then
    { state := .inside
      start := c.start.map f
      column := c.column + w
      candidates := c.candidates.map (Candidate.redraw f w) }
  else c

def redraw (f : Int → Int) (w : Int) (s : Scan) : Scan :=
  { s with context := s.context.redraw f w, regions := s.regions.map (Region.redraw f w) }

@[simp] theorem state_redraw (f : Int → Int) (w : Int) (c : Context) :
    (c.redraw f w).state = c.state := by
  unfold Context.redraw
  split_ifs with h
  · exact h.symm
  · rfl

/-- Moving all candidates by one width does not change which of them are at the least column. -/
theorem topLevel_redraw (f : Int → Int) (w : Int) (cs : List Candidate) :
    topLevel (cs.map (Candidate.redraw f w)) = (topLevel cs).map f := by
  simp only [topLevel_eq_shallowest, shallowest, List.filter_map, List.map_map, List.all_map,
    Function.comp_def, Candidate.redraw, Int.add_le_add_iff_right]

/-- Closing a block and drawing anew can be done in either order. -/
theorem close_redraw (d e : Document) (f : Int → Int) (w stop : Int) (s : Scan) :
    (s.redraw f w).close e false (f stop) = (s.close d false stop).map (redraw f w) := by
  rcases closeBlock_cases d false stop s with ⟨hout, hrun⟩ | ⟨start, hstate, hstart, -⟩
  · have hout' : (s.redraw f w).context.state ≠ .inside ∨ (s.redraw f w).context.start = none := by
      by_cases hstate : s.context.state = .inside
      · have hstart : s.context.start = none := hout.resolve_left (not_not_intro hstate)
        simp [redraw, Context.redraw, hstate, hstart]
      · simp [redraw, hstate]
    rw [close_of_run hrun, close_of_run (run_closeBlock_of_outside hout')]
    rfl
  · have hcontext : (s.redraw f w).context = ⟨.inside, some (f start), s.context.column + w,
        s.context.candidates.map (Candidate.redraw f w)⟩ := by
      simp [redraw, Context.redraw, hstate, hstart]
    have hstate' : (s.redraw f w).context.state = .inside := by rw [hcontext]
    have hstart' : (s.redraw f w).context.start = some (f start) := by rw [hcontext]
    rw [close_of_run (run_closeBlock_unwatched hstate hstart),
      close_of_run (run_closeBlock_unwatched hstate' hstart')]
    simp only [closed, hcontext, topLevel_redraw]
    simp [Except.map, redraw, Context.redraw, Region.redraw]

/-- A line of the same kind, moved by the width, makes the same step. -/
theorem step_redraw (d e : Document) (hj : f i = j) {kind : Line.Kind}
    (hcolumn : kind ≠ .blank → line'.column = line.column + w) :
    (s.redraw f w).step e false j line' kind = (s.step d false i line kind).map (redraw f w) := by
  have hclose : (s.redraw f w).close e false j = (s.close d false i).map (redraw f w) :=
    hj ▸ close_redraw d e f w i s
  have hstate : (s.redraw f w).context.state = s.context.state := state_redraw f w s.context
  unfold step
  by_cases hm : kind = .marker
  · have hcolumn' : (line'.column : Int) = line.column + w := by
      rw [hcolumn (by simp [hm]), Int.natCast_add]
    rw [if_pos hm, if_pos hm, hclose]
    cases s.close d false i with
    | error e => rfl
    | ok t => simp [Except.map, redraw, enter, Context.redraw, hj, hcolumn']
  by_cases hout : s.context.state ≠ .inside
  · simp [hm, hstate, hout, Except.map]
  by_cases hb : kind = .blank
  · simp [hstate, hout, hb, Except.map]
  rw [not_not] at hout
  -- Both columns have grown by the width, so the line is as deep as before within the block.
  have hcolumn' : (line'.column : Int) = line.column + w := by
    rw [hcolumn hb, Int.natCast_add]
  have hcontext : (s.redraw f w).context.column = s.context.column + w := by
    simp [redraw, Context.redraw, hout]
  have hends : ((line'.column : Int) ≤ (s.redraw f w).context.column ∨ kind = .terminator) ↔
      ((line.column : Int) ≤ s.context.column ∨ kind = .terminator) := by
    rw [hcolumn', hcontext, Int.add_le_add_iff_right]
  simp only [hm, hstate, hout, hb, if_false, ne_eq, not_true_eq_false, hends]
  split_ifs
  · exact hclose
  · simp [Except.map, redraw, note, Context.redraw, hout, Candidate.redraw, hj, hcolumn']
  · rfl

/-- A blank line leaves a walk where it is. -/
theorem step_blank (d : Document) (watched : Bool) (i : Nat) (line : Line) (s : Scan) :
    s.step d watched i line .blank = .ok s := by
  simp [step]

/-- The lines `rest'`, which start at number `j`, draw the lines `rest` anew, which start at number
`i`. The lines are moved by the width `w`, and `f` gives each of them its new number. -/
inductive Redraws (config : Config) (f : Int → Int) (w : Nat) :
    Nat → List Line → Nat → List Line → Prop where
  | done {i j : Nat} (hj : f i = j) : Redraws config f w i [] j []
  | line {i j : Nat} {line line' : Line} {rest rest' : List Line} (hj : f i = j)
      (hkind : Line.kind config line' = Line.kind config line)
      (hcolumn : line.isBlank = false → line'.column = line.column + w)
      (hrest : Redraws config f w (i + 1) rest (j + 1) rest') :
      Redraws config f w i (line :: rest) j (line' :: rest')
  | blank {i j : Nat} {blank : Line} {rest rest' : List Line} (hblank : blank.isBlank = true)
      (hrest : Redraws config f w i rest (j + 1) rest') :
      Redraws config f w i rest j (blank :: rest')

/-- A walk over lines drawn anew ends in the state drawn anew, with the same fault or with none. -/
theorem walk_redraw (d e : Document) (h : Redraws config f w i rest j rest') (s : Scan) :
    Scan.walk config e false j rest' (s.redraw f w) =
      ((Scan.walk config d false i rest s).1.redraw f w,
        (Scan.walk config d false i rest s).2) := by
  induction h generalizing s with
  | done hj => rfl
  | @line i j line line' rest rest' hj hkind hcolumn _ ih =>
      simp only [Scan.walk]
      rw [hkind]
      cases hk : Line.kind config line with
      | error e => rfl
      | ok kind =>
          have hcolumn' : kind ≠ .blank → line'.column = line.column + w := by
            intro hb
            apply hcolumn
            rw [← Bool.not_eq_true, ← Line.kind_eq_blank_iff config, hk]
            exact fun heq => hb (Except.ok.inj heq)
          simp only [step_redraw d e hj hcolumn']
          cases s.step d false i line kind with
          | error e => rfl
          | ok t => exact ih t
  | @blank i j blank rest rest' hblank _ ih =>
      rw [Scan.walk, (Line.kind_eq_blank_iff config).mpr hblank]
      simp only [step_blank]
      exact ih s

/-- The number after the last line is drawn anew as the number after the last line. -/
theorem Redraws.last (h : Redraws config f w i rest j rest') :
    f (i + rest.length : Nat) = (j + rest'.length : Nat) := by
  induction h with
  | done hj => exact hj
  | line _ _ _ _ ih =>
      rw [List.length_cons, List.length_cons]
      convert ih using 2 <;> omega
  | blank _ _ ih =>
      rw [List.length_cons]
      convert ih using 2
      omega

/-- Lines that are drawn anew one by one, with nothing put in between. -/
theorem Redraws.of_forall₂ (hf : ∀ k ≤ rest.length, f (i + k : Nat) = (j + k : Nat))
    (h : List.Forall₂ (fun line line' : Line => Line.kind config line' = Line.kind config line ∧
      (line.isBlank = false → line'.column = line.column + w)) rest rest') :
    Redraws config f w i rest j rest' := by
  induction h generalizing i j with
  | nil => exact .done (hf 0 le_rfl)
  | cons hline _ ih =>
      refine .line (hf 0 (Nat.zero_le _)) hline.1 hline.2 (ih ?_)
      intro k hk
      have hnext := hf (k + 1) (Nat.succ_le_succ hk)
      rwa [← Nat.add_assoc, ← Nat.add_assoc, Nat.add_right_comm i, Nat.add_right_comm j] at hnext

end Scan

/-- The number of a line after another line has been put in before line `p`. -/
def shiftFrom (p : Nat) (n : Int) : Int := if (p : Int) ≤ n then n + 1 else n

theorem shiftFrom_of_lt {p n : Nat} (h : n < p) : shiftFrom p n = n := by
  rw [shiftFrom, if_neg]
  omega

theorem shiftFrom_of_le {p n : Nat} (h : p ≤ n) : shiftFrom p n = (n + 1 : Nat) := by
  rw [shiftFrom, if_pos (Int.ofNat_le.mpr h), Int.natCast_succ]

/-- Lines with a blank line put in among them or at their end are the same lines drawn anew. -/
theorem Scan.Redraws.insertIdx {config : Config} {i p : Nat} {rest : List Line} {blank : Line}
    (hp : p ≤ rest.length) (hblank : blank.isBlank = true) :
    Redraws config (shiftFrom (i + p)) 0 i rest i (rest.insertIdx p blank) := by
  induction p generalizing i rest with
  | zero =>
      rw [List.insertIdx_zero]
      apply Redraws.blank hblank
      apply Redraws.of_forall₂
      · intro k _
        rw [Nat.add_zero, shiftFrom_of_le (Nat.le_add_right i k), Nat.add_right_comm]
      · exact List.forall₂_same.mpr fun line _ => ⟨rfl, fun _ => rfl⟩
  | succ p ih =>
      cases rest with
      | nil => exact absurd hp (Nat.not_succ_le_zero p)
      | cons line rest =>
          have hnumber : shiftFrom (i + (p + 1)) i = i := shiftFrom_of_lt (by omega)
          have hrest := ih (i := i + 1) (Nat.le_of_succ_le_succ hp)
          rw [Nat.add_right_comm, Nat.add_assoc] at hrest
          rw [List.insertIdx_succ_cons]
          exact .line hnumber rfl (fun _ => rfl) hrest

namespace Document

variable {config : Config} {d e : Document} {f : Int → Int} {w : Nat} {watched : Bool}

/-- A document drawn anew has the regions of the old one drawn anew, or the same fault. -/
theorem regions_redraw (h : Scan.Redraws config f w 0 d.lines 0 e.lines) :
    e.regions config = (d.regions config).map fun rs => rs.map (Region.redraw f w) := by
  have hwalk := Scan.walk_redraw d e h {}
  have hlast : f d.lineCount = e.lineCount := by simpa [lineCount] using h.last
  have hempty : ({} : Scan).redraw f w = {} := rfl
  rw [hempty] at hwalk
  unfold regions survey
  rw [hwalk]
  cases Scan.walk config d false 0 d.lines {} with
  | mk s fault =>
      cases fault with
      | some e => rfl
      | none =>
          simp only
          rw [← hlast, Scan.close_redraw d e]
          cases s.close d false d.lineCount with
          | error e => rfl
          | ok t => rfl

/-- Watched or not, a survey of a document drawn anew gives the regions drawn anew. -/
theorem survey_redraw (h : Scan.Redraws config f w 0 d.lines 0 e.lines)
    (hd : watched = true → d.lineCount ≤ indexLimit)
    (he : watched = true → e.lineCount ≤ indexLimit) :
    (e.survey config watched).regions =
      (d.survey config watched).regions.map fun rs => rs.map (Region.redraw f w) := by
  rw [survey_regions_eq hd, survey_regions_eq he, regions_redraw h]

/-- The key lines of a document drawn anew are renumbered. -/
theorem keyLines_redraw (h : Scan.Redraws config f w 0 d.lines 0 e.lines) :
    e.keyLines config = (d.keyLines config).map fun lines => lines.map f := by
  rw [keyLines, keyLines, regions_redraw h]
  cases d.regions config with
  | error e => rfl
  | ok rs =>
      simp only [Except.map, List.flatMap_map, List.map_flatMap]
      rfl

/-- A document with one more line, put in before line `p` or at the end. -/
def insertLine (d : Document) (p : Nat) (line : Line) : Document := ⟨d.lines.insertIdx p line⟩

theorem lineCount_insertLine {p : Nat} (line : Line) (hp : p ≤ d.lineCount) :
    (d.insertLine p line).lineCount = d.lineCount + 1 := by
  rw [lineCount, insertLine, List.length_insertIdx]
  exact if_pos hp

/-- A blank line put in anywhere leaves the regions of a survey as they are, except that all lines
from there on have moved by one; a survey that ends with a fault ends with the same fault. The key
lines move in the same way. -/
theorem survey_insertLine_of_isBlank {p : Nat} {blank : Line} (hp : p ≤ d.lineCount)
    (hblank : blank.isBlank = true) (hw : watched = true → d.lineCount < indexLimit) :
    ((d.insertLine p blank).survey config watched).regions =
        (d.survey config watched).regions.map (fun rs => rs.map fun r =>
          { start := shiftFrom p r.start
            stop := shiftFrom p r.stop
            column := r.column
            keyLines := r.keyLines.map (shiftFrom p) }) ∧
      (d.insertLine p blank).keyLines config =
        (d.keyLines config).map fun lines => lines.map (shiftFrom p) := by
  have hredraws : Scan.Redraws config (shiftFrom p) 0 0 d.lines 0 (d.insertLine p blank).lines := by
    have hinsert : Scan.Redraws config (shiftFrom (0 + p)) 0 0 d.lines 0
        (d.lines.insertIdx p blank) := .insertIdx hp hblank
    rwa [Nat.zero_add] at hinsert
  have hcount : watched = true → (d.insertLine p blank).lineCount ≤ indexLimit := by
    intro h
    rw [lineCount_insertLine blank hp]
    exact hw h
  constructor
  · rw [survey_redraw hredraws (fun h => (hw h).le) hcount]
    rw [Int.natCast_zero, Region.redraw_zero]
  · exact keyLines_redraw hredraws

/-- A wide space is put in between the first block of `twoBlocks` and the line that closes it. -/
theorem survey_insertLine_of_isBlank_twoBlocks :
    6 ≤ twoBlocks.lineCount ∧ Line.isBlank ['\u3000'] = true ∧
      (twoBlocks.survey {} true).regions = .ok [⟨0, 6, 0, [1, 5]⟩, ⟨7, 10, 0, [9]⟩] ∧
      ((twoBlocks.insertLine 6 ['\u3000']).survey {} true).regions =
        .ok [⟨0, 7, 0, [1, 5]⟩, ⟨8, 11, 0, [10]⟩] ∧
      (twoBlocks.insertLine 6 ['\u3000']).keyLines {} = .ok [1, 5, 10] := by
  have hp : 6 ≤ twoBlocks.lineCount := by decide
  have hblank : Line.isBlank ['\u3000'] = true := by decide
  have hw : true = true → twoBlocks.lineCount < indexLimit := fun _ => by decide
  obtain ⟨hmoved, hmovedKeys⟩ := survey_insertLine_of_isBlank hp hblank hw
  refine ⟨hp, hblank, survey_twoBlocks, hmoved.trans ?_, hmovedKeys.trans ?_⟩
  · rw [survey_twoBlocks]
    rfl
  · rw [keyLines, ← survey_regions_eq fun h => (hw h).le, survey_twoBlocks]
    rfl

end Document

end Foldline
