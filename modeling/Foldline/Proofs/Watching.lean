import Foldline.Proofs.Extent

/-! # What watching a walk adds

A walk that is watched looks at the candidates of each block that it closes and warns of those that
are indented with both spaces and tabs. Its blocks are those of a walk that is not watched: leaving
the warnings out of every state turns the one walk into the other. The warnings are one for each
region with mixed indentation in front of the key lines inside of it, nested ones included. -/

namespace Foldline

namespace Document

variable (config : Config) (d : Document)

/-- The indentation of the line at a place. -/
def indentOf (i : Nat) : List Char := (d.lines[i]?.getD []).takeWhile Line.isIndent

/-- The indentation of all key lines inside a region. -/
def indentsOf (r : Region) : List Char :=
  (d.keysBetween config r.start.toNat r.stop.toNat).flatMap d.indentOf

/-- Whether the key lines inside a region are indented with both spaces and tabs. -/
def isMixedRegion (r : Region) : Bool :=
  (d.indentsOf config r).contains ' ' && (d.indentsOf config r).contains '\t'

/-- One warning for each region with mixed indentation. -/
def remarks (rs : List Region) : List Warning :=
  (rs.filter (d.isMixedRegion config)).map fun r => ⟨r.start⟩

variable {config d}

/-- One region more adds a warning if it is mixed. -/
theorem remarks_concat (rs : List Region) (r : Region) :
    d.remarks config (rs ++ [r]) =
      if d.isMixedRegion config r then d.remarks config rs ++ [⟨r.start⟩]
      else d.remarks config rs := by
  by_cases hr : d.isMixedRegion config r <;> simp [remarks, hr]

theorem lines_of_lineAt {i : Nat} {line : Line} (h : d.lineAt i = .ok line) :
    d.lines[i]? = some line := by
  unfold lineAt at h
  simp only [Int.natCast_nonneg, if_true] at h
  split_ifs at h
  split at h
  · rename_i hl
    rw [← Except.ok.inj h]
    exact hl
  · cases h

end Document

namespace Scan

variable {config : Config} {d : Document} {watched : Bool} {s t : Scan} {i : Nat}

/-- A state without its warnings. -/
def unwarned (s : Scan) : Scan := { s with warnings := [] }

/-- Left out of the states, warnings make no difference to closing a block. -/
theorem unwarned_close {stop : Int} (h : s.close d watched stop = .ok t) :
    s.unwarned.close d false stop = .ok t.unwarned := by
  rcases close_cases h with ⟨hout, rfl⟩ | ⟨start, mixed, hstate, hstart, -, rfl⟩
  · exact close_of_run (run_closeBlock_of_outside hout)
  · have hinside : s.unwarned.context.state = .inside := hstate
    exact close_of_run (run_closeBlock_unwatched hinside hstart)

theorem unwarned_step {line : Line} {kind : Line.Kind}
    (h : s.step d watched i line kind = .ok t) :
    s.unwarned.step d false i line kind = .ok t.unwarned := by
  have hcontext : s.unwarned.context = s.context := rfl
  unfold step at h ⊢
  rw [hcontext]
  split_ifs at h ⊢ with hm hout hb hends hk
  · obtain ⟨u, hu, rfl⟩ := Stages.map_eq_ok_iff.mp h
    rw [unwarned_close hu]
    rfl
  · rw [Except.ok.inj h]
  · rw [Except.ok.inj h]
  · exact unwarned_close h
  · rw [← Except.ok.inj h]
    rfl
  · rw [Except.ok.inj h]

/-- Whether a state is one of a walk does not depend on its warnings. -/
theorem Follows.congr (h : s.Follows config d i) (hcontext : t.context = s.context)
    (hregions : t.regions = s.regions) : t.Follows config d i := by
  rcases h with hclear | ⟨start, hopen⟩
  · exact .inl ⟨hcontext.trans hclear.context, hregions.trans hclear.regions⟩
  · exact .inr ⟨start, hopen.before, hopen.marker, hopen.unclosed, hcontext.trans hopen.context,
      hregions.trans hopen.regions⟩

/-- Every step that succeeds leads from one state of a walk to another, watched or not. -/
theorem Follows.of_step {line : Line} {kind : Line.Kind} (h : s.Follows config d i)
    (hl : d.lines[i]? = some line) (hk : Line.kind config line = .ok kind)
    (hstep : s.step d watched i line kind = .ok t) : t.Follows config d (i + 1) := by
  have hunwarned : s.unwarned.Follows config d i := h.congr rfl rfl
  obtain ⟨u, hu, hfollows⟩ := hunwarned.step hl hk fun hw : false = true => by cases hw
  rw [unwarned_step hstep] at hu
  obtain rfl := Except.ok.inj hu
  exact hfollows.congr rfl rfl

/-- At the end of a document, closing that succeeds completes the outline, watched or not. -/
theorem Follows.of_finish (h : s.Follows config d d.lineCount)
    (hclose : s.close d watched d.lineCount = .ok t) : t.regions = d.outline config := by
  have hunwarned : s.unwarned.Follows config d d.lineCount := h.congr rfl rfl
  obtain ⟨u, hu, hregions⟩ := hunwarned.finish fun hw : false = true => by cases hw
  rw [unwarned_close hclose] at hu
  obtain rfl := Except.ok.inj hu
  exact hregions

/-- What stands in front of a line's column is its indentation. -/
theorem leading_column (line : Line) :
    leading line.column line = line.takeWhile Line.isIndent := by
  have hfront : line.takeWhile Line.isIndent <+: line := List.takeWhile_prefix _
  rw [leading, if_pos (Int.natCast_nonneg _), Int.toNat_natCast, Line.column]
  exact (List.prefix_iff_eq_take.mp hfront).symm

/-- The characters in front of key lines are their indentation. -/
theorem leadings_keys {keys : List Nat} {chars : List Char}
    (h : leadings d (keys.map fun k : Nat => ⟨k, d.columnOf k⟩) = .ok chars) :
    chars = keys.flatMap d.indentOf := by
  induction keys generalizing chars with
  | nil => exact (Except.ok.inj h).symm
  | cons k rest ih =>
      rw [List.map_cons, leadings] at h
      split at h
      · rename_i line hline
        obtain ⟨later, hlater, rfl⟩ := Stages.map_eq_ok_iff.mp h
        have hl := Document.lines_of_lineAt hline
        rw [ih hlater, List.flatMap_cons, Document.columnOf_of_line hl, leading_column,
          Document.indentOf, hl, Option.getD_some]
      · cases h

/-- Candidates are found to be mixed when the region that holds them is. -/
theorem isMixed_candidates {start stop : Nat} {mixed : Bool} (column : Int) (keys : List Int)
    (h : isMixed d (d.candidatesBetween config start stop) = .ok mixed) :
    mixed = d.isMixedRegion config ⟨start, stop, column, keys⟩ := by
  obtain ⟨chars, hchars, rfl⟩ := Stages.map_eq_ok_iff.mp h
  rw [leadings_keys hchars]
  rfl

variable (config d watched s) in
/-- The warnings of a watched walk are about the regions found that are mixed. -/
def IsRemarked : Prop := s.warnings = if watched then d.remarks config s.regions else []

theorem Follows.isRemarked_close (h : s.Follows config d i) (hr : s.IsRemarked config d watched)
    (hclose : s.close d watched i = .ok t) : t.IsRemarked config d watched := by
  rcases close_cases hclose with ⟨-, rfl⟩ | ⟨start, mixed, hstate, hstart, hmixed, rfl⟩
  · exact hr
  rcases h with hclear | ⟨b, hopen⟩
  · rw [hclear.context] at hstate
    cases hstate
  · rw [closed, hopen.context]
    rw [hopen.context] at hstart hmixed
    obtain rfl : (b : Int) = start := Option.some.inj hstart
    unfold IsRemarked at hr ⊢
    -- The region that is added reaches up to line `i`, so it is mixed when the candidates are.
    cases watched with
    | false =>
        obtain rfl : false = mixed := Except.ok.inj hmixed
        exact hr
    | true =>
        rw [isMixed_candidates (d.columnOf b) (topLevel (d.candidatesBetween config b i)) hmixed]
        simp only [if_true] at hr ⊢
        rw [hr, Document.remarks_concat]

theorem Follows.isRemarked_step {line : Line} {kind : Line.Kind} (h : s.Follows config d i)
    (hr : s.IsRemarked config d watched) (hstep : s.step d watched i line kind = .ok t) :
    t.IsRemarked config d watched := by
  rcases step_cases hstep with ⟨u, hu, rfl⟩ | hclose | rfl | rfl
  · have hclosed : u.IsRemarked config d watched := h.isRemarked_close hr hu
    exact hclosed
  · exact h.isRemarked_close hr hclose
  · exact hr
  · exact hr

/-- A walk over the rest of a document that gets to its end has warned of all mixed regions. -/
theorem Follows.isRemarked_walk {rest : List Line} (h : s.Follows config d i)
    (hr : s.IsRemarked config d watched) (hrest : d.lines.drop i = rest)
    (hwalk : Scan.walk config d watched i rest s = (t, none)) :
    t.Follows config d (i + rest.length) ∧ t.IsRemarked config d watched := by
  -- A watched step can fail in a document with more lines than can be counted, so the states are
  -- followed along the steps that succeed.
  induction rest generalizing i s with
  | nil =>
      obtain rfl : s = t := congrArg Prod.fst hwalk
      exact ⟨h, hr⟩
  | cons line rest ih =>
      obtain ⟨hl, hdrop⟩ := Document.line_of_drop hrest
      rw [Scan.walk] at hwalk
      split at hwalk
      · cases hwalk
      · rename_i kind hkind
        split at hwalk
        · cases hwalk
        · rename_i u hstep
          rw [List.length_cons, Nat.add_comm rest.length 1, ← Nat.add_assoc]
          exact ih (h.of_step hl hkind hstep) (h.isRemarked_step hr hstep) hdrop hwalk

/-- As long as lines can be counted, a watched walk over the rest of a document ends with the same
fault as one that is not watched, or with none, and in the same state apart from the warnings. -/
theorem Follows.unwarned_walk {rest : List Line} (h : s.Follows config d i)
    (hrest : d.lines.drop i = rest) (hw : watched = true → d.lineCount ≤ Document.indexLimit) :
    ∃ t fault, Scan.walk config d watched i rest s = (t, fault) ∧
      Scan.walk config d false i rest s.unwarned = (t.unwarned, fault) ∧
      (fault = none → t.Follows config d (i + rest.length)) := by
  -- Only a line that cannot be classified ends the walk: candidates are lines of the document, so
  -- looking at them does not fail.
  induction rest generalizing i s with
  | nil => exact ⟨s, none, rfl, rfl, fun _ => h⟩
  | cons line rest ih =>
      obtain ⟨hl, hdrop⟩ := Document.line_of_drop hrest
      cases hkind : Line.kind config line with
      | error e =>
          refine ⟨s, some (.line e), ?_, ?_, ?_⟩
          · simp only [Scan.walk, hkind]
          · simp only [Scan.walk, hkind]
          · intro hnone
            cases hnone
      | ok kind =>
          obtain ⟨u, hu, hfollows⟩ := h.step hl hkind hw
          obtain ⟨t, fault, hwalk, hplain, hend⟩ := ih hfollows hdrop
          refine ⟨t, fault, ?_, ?_, ?_⟩
          · simp only [Scan.walk, hkind, hu, hwalk]
          · simp only [Scan.walk, hkind, unwarned_step hu, hplain]
          · intro hnone
            rw [List.length_cons, Nat.add_comm rest.length 1, ← Nat.add_assoc]
            exact hend hnone

end Scan

namespace Document

variable {config : Config} {d : Document} {watched : Bool}

/-- Watching changes neither the regions nor the fault of a survey. -/
theorem survey_regions_eq (hw : watched = true → d.lineCount ≤ indexLimit) :
    (d.survey config watched).regions = d.regions config := by
  have hstart : Scan.Follows config d {} 0 := .inl Scan.isClear_empty
  obtain ⟨t, fault, hwalk, hplain, hend⟩ := hstart.unwarned_walk List.drop_zero hw
  have hempty : ({} : Scan).unwarned = {} := rfl
  rw [hempty] at hplain
  cases fault with
  | some e => simp only [regions, survey, hwalk, hplain]
  | none =>
      have hfollows := hend rfl
      rw [Nat.zero_add] at hfollows
      obtain ⟨u, hu, -⟩ := hfollows.finish hw
      simp only [regions, survey, hwalk, hplain, hu, Scan.unwarned_close hu]
      rfl

/-- A survey that gives regions has classified every line; the regions are the outline, and the
warnings are about those of them that are mixed. -/
theorem survey_of_ok {rs : List Region} (h : (d.survey config watched).regions = .ok rs) :
    (∀ line ∈ d.lines, ∃ kind, Line.kind config line = .ok kind) ∧ rs = d.outline config ∧
      (d.survey config watched).warnings = if watched then d.remarks config rs else [] := by
  have hstart : Scan.Follows config d {} 0 := .inl Scan.isClear_empty
  have hnone : Scan.IsRemarked config d watched {} := by cases watched <;> rfl
  unfold survey at h ⊢
  split at h
  · cases h
  · rename_i s hwalk
    obtain ⟨hfollows, hremarked⟩ := hstart.isRemarked_walk hnone List.drop_zero hwalk
    rw [Nat.zero_add] at hfollows
    split at h
    · cases h
    · rename_i t hclose
      obtain rfl := Except.ok.inj h
      refine ⟨Scan.kinds_of_walk hwalk, hfollows.of_finish hclose, ?_⟩
      exact hfollows.isRemarked_close hremarked hclose

/-- The warnings of a survey of classified lines are about the mixed regions of the outline. -/
theorem survey_warnings (hk : ∀ line ∈ d.lines, ∃ kind, Line.kind config line = .ok kind)
    (hw : watched = true → d.lineCount ≤ indexLimit) :
    (d.survey config watched).warnings =
      if watched then d.remarks config (d.outline config) else [] :=
  (survey_of_ok (survey_regions hk hw)).2.2

variable (config d) in
/-- Some key line inside a region, nested ones included, has the character `c` in its
indentation. -/
def HasIndent (r : Region) (c : Char) : Prop :=
  ∃ k : Nat, r.start < k ∧ (k : Int) < r.stop ∧ d.kindAt? config k = some .key ∧ c ∈ d.indentOf k

theorem mem_indentsOf {r : Region} {c : Char} (hr : 0 ≤ r.start) :
    c ∈ d.indentsOf config r ↔ d.HasIndent config r c := by
  rw [indentsOf, List.mem_flatMap, HasIndent]
  apply exists_congr
  intro k
  rw [mem_keysBetween, Int.toNat_lt hr, Int.lt_toNat, and_assoc, and_assoc]

/-- A region is mixed when a space and a tab stand in front of its key lines, in one line or in
two. -/
theorem isMixedRegion_eq_true_iff {r : Region} (hr : 0 ≤ r.start) :
    d.isMixedRegion config r = true ↔ d.HasIndent config r ' ' ∧ d.HasIndent config r '\t' := by
  rw [isMixedRegion, Bool.and_eq_true, List.contains_iff_mem, List.contains_iff_mem,
    mem_indentsOf hr, mem_indentsOf hr]

/-- As long as its lines can be counted, watching the survey of a document changes neither its
regions nor its fault. A survey that gives regions warns, in their order, once of each region with
both a space and a tab in front of its key lines, and of nothing else. -/
theorem survey_watched (hd : d.lineCount ≤ indexLimit) :
    (d.survey config true).regions = (d.survey config false).regions ∧
      ∀ rs, (d.survey config true).regions = .ok rs →
        (d.survey config true).warnings.map Warning.message =
            (rs.filter (d.isMixedRegion config)).map (fun r => "Warning: block at line " ++
              toString (r.start + 1) ++
              " mixes tabs and spaces; top-level keys may be inaccurate") ∧
          ∀ r ∈ rs, d.isMixedRegion config r = true ↔
            d.HasIndent config r ' ' ∧ d.HasIndent config r '\t' := by
  constructor
  · exact survey_regions_eq fun _ => hd
  · intro rs hrs
    obtain ⟨-, rfl, hwarnings⟩ := survey_of_ok hrs
    constructor
    · rw [hwarnings, if_pos rfl, remarks, List.map_map]
      rfl
    · intro r hr
      obtain ⟨s, -, -, rfl⟩ := mem_outline.mp hr
      exact isMixedRegion_eq_true_iff (Int.natCast_nonneg s)

theorem survey_twoBlocks :
    (twoBlocks.survey {} true).regions = .ok [⟨0, 6, 0, [1, 5]⟩, ⟨7, 10, 0, [9]⟩] :=
  Stages.eq_ok_of_toOption (by decide +kernel)

/-- Two blocks. The keys of the second one are indented with spaces and a key nested in them with
tabs. -/
def tabbedNesting : Document :=
  ⟨["const a = stylex.create(\x7b", "  base: \x7b", "\x7d);", "const b = stylex.create(\x7b",
    "  base: \x7b", "\t\t\thover: \x7b", "    \x7d,", "\x7d);"].map String.toList⟩

theorem survey_watched_tabbedNesting :
    tabbedNesting.lineCount ≤ indexLimit ∧
      (tabbedNesting.survey {} true).regions = .ok [⟨0, 2, 0, [1]⟩, ⟨3, 7, 0, [4]⟩] ∧
      (tabbedNesting.survey {} true).regions = (tabbedNesting.survey {} false).regions ∧
      (tabbedNesting.survey {} true).warnings.map Warning.message =
        ["Warning: block at line 4 mixes tabs and spaces; top-level keys may be inaccurate"] := by
  have hd : tabbedNesting.lineCount ≤ indexLimit := by decide
  have hregions : (tabbedNesting.survey {} true).regions =
      .ok [⟨0, 2, 0, [1]⟩, ⟨3, 7, 0, [4]⟩] := Stages.eq_ok_of_toOption (by decide +kernel)
  obtain ⟨hsame, hwarns⟩ := survey_watched hd
  have hmessages := (hwarns _ hregions).1
  refine ⟨hd, hregions, hsame, hmessages.trans ?_⟩
  decide +kernel

end Document

end Foldline
