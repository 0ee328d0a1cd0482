import Foldline.Proofs.Outline

/-! # What a walk finds

After the lines before line `i` a walk stands in one of two states. Either no block is open, and
the regions found are those of all markers before `i`; or the block of the last marker is open,
the lines since then are not enough to close it, and its key lines so far are the candidates. Each
line leads from one of these states to one of them, so a walk to the end of a document finds its
outline. -/

namespace Foldline

namespace Document

variable {d : Document}

/-- A line of a document can be looked up by its number as long as lines can be counted. -/
theorem lineAt_of_lt {i : Nat} (hi : i < d.lineCount) (hd : d.lineCount ≤ indexLimit) :
    ∃ line, d.lineAt i = .ok line ∧ d.lines[i]? = some line := by
  have hline : d.lines[i]? = some d.lines[i] := List.getElem?_eq_getElem hi
  have hindex : isIndex (i : Int) = true := isIndex_of_lt hd (by omega) (Int.ofNat_lt.mpr hi)
  refine ⟨d.lines[i], ?_, hline⟩
  simp [lineAt, hindex, hline]

/-- Where some lines are left, the first of them is the next line of the document. -/
theorem line_of_drop {i : Nat} {line : Line} {rest : List Line}
    (h : d.lines.drop i = line :: rest) :
    d.lines[i]? = some line ∧ d.lines.drop (i + 1) = rest := by
  constructor
  · rw [← List.head?_drop, h, List.head?_cons]
  · rw [← List.drop_drop, h, List.drop_one, List.tail_cons]

end Document

namespace Scan

variable {config : Config} {d : Document} {watched : Bool} {s t : Scan} {i : Nat}

/-- What a step does: it opens a block after it has closed the one before, closes a block, keeps a
candidate, or passes over the line. -/
theorem step_cases {line : Line} {kind : Line.Kind} (h : s.step d watched i line kind = .ok t) :
    (∃ u, s.close d watched i = .ok u ∧ t = u.enter i line.column) ∨
      s.close d watched i = .ok t ∨ t = s.note i line.column ∨ t = s := by
  unfold step at h
  split_ifs at h
  · obtain ⟨u, hu, rfl⟩ := Stages.map_eq_ok_iff.mp h
    exact .inl ⟨u, hu, rfl⟩
  · exact .inr (.inr (.inr (Except.ok.inj h).symm))
  · exact .inr (.inr (.inr (Except.ok.inj h).symm))
  · exact .inr (.inl h)
  · exact .inr (.inr (.inl (Except.ok.inj h).symm))
  · exact .inr (.inr (.inr (Except.ok.inj h).symm))

variable (config d s i)

/-- No block is open before line `i`, and the regions of all markers before it are found. -/
structure IsClear : Prop where
  context : s.context = {}
  regions : s.regions = (d.markersBelow config i).map (d.blockAt config)

/-- The block of the marker at line `start` is open before line `i`. -/
structure IsOpen (start : Nat) : Prop where
  before : start < i
  marker : d.kindAt? config start = some .marker
  unclosed : ∀ j ∈ d.closers config start, i ≤ j
  context : s.context =
    ⟨.inside, some start, d.columnOf start, d.candidatesBetween config start i⟩
  regions : s.regions = (d.markersBelow config start).map (d.blockAt config)

/-- The states that a walk can be in before line `i`. -/
def Follows : Prop := s.IsClear config d i ∨ ∃ start, s.IsOpen config d i start

variable {config d s i}

theorem isClear_empty : IsClear config d {} 0 := ⟨rfl, rfl⟩

/-- The marker of an open block is the last one so far. -/
theorem IsOpen.markersBelow_eq {start : Nat} (h : s.IsOpen config d i start) :
    d.markersBelow config i = d.markersBelow config start ++ [start] := by
  have hlast : d.markersBelow config i = d.markersBelow config (start + 1) := by
    apply Document.markersBelow_eq_of_le h.before
    intro j hj hlt hmarker
    have hcloser : j ∈ d.closers config start := ⟨hj, by simp [Document.closesAt, hmarker]⟩
    exact absurd (h.unclosed j hcloser) (Nat.not_le.mpr hlt)
  rw [hlast, Document.markersBelow_succ, if_pos h.marker]

/-- The candidates of an open block are lines of the document, so closing it can look at them. -/
theorem isMixed_candidatesBetween (config : Config) (start : Nat) (hi : i ≤ d.lineCount)
    (hw : watched = true → d.lineCount ≤ Document.indexLimit) :
    ∃ mixed, (if watched then isMixed d (d.candidatesBetween config start i) else .ok false) =
      .ok mixed := by
  cases watched with
  | false => exact ⟨false, rfl⟩
  | true =>
      have hlines : ∀ c ∈ d.candidatesBetween config start i,
          ∃ line, d.lineAt c.line = .ok line := by
        intro c hc
        obtain ⟨k, hk, rfl⟩ := List.mem_map.mp hc
        have hlt : k < d.lineCount := (Document.mem_keysBetween.mp hk).2.1.trans_le hi
        obtain ⟨line, hline, _⟩ := Document.lineAt_of_lt hlt (hw rfl)
        exact ⟨line, hline⟩
      obtain ⟨chars, hchars⟩ := leadings_eq_ok hlines
      exact ⟨_, by simp only [if_pos, isMixed, hchars]; rfl⟩

/-- Closing an open block at the line where it stops completes its region. -/
theorem IsOpen.close {start : Nat} (h : s.IsOpen config d i start)
    (hstop : d.stopAfter config start = i) (hi : i ≤ d.lineCount)
    (hw : watched = true → d.lineCount ≤ Document.indexLimit) :
    ∃ t, s.close d watched i = .ok t ∧ t.IsClear config d i := by
  obtain ⟨mixed, hm⟩ := isMixed_candidatesBetween config start hi hw
  have hwrite : mixed = true → Text.Numeral.canWrite (start + 1) = true := by
    intro hmixed
    cases watched with
    | false => exact absurd hmixed (Except.ok.inj hm ▸ Bool.false_ne_true)
    | true => exact Text.Numeral.canWrite_of_le (h.before.trans_le (hi.trans (hw rfl)))
  refine ⟨_, close_of_inside h.context hm hwrite, rfl, ?_⟩
  simp [closed, h.context, h.regions, h.markersBelow_eq, Document.blockAt, hstop]

/-- A marker line opens a block. -/
theorem IsClear.enter (h : s.IsClear config d i) (hk : d.kindAt? config i = some .marker) :
    (s.enter i (d.columnOf i)).IsOpen config d (i + 1) i where
  before := Nat.lt_succ_self i
  marker := hk
  unclosed := fun _ hj => hj.1
  context := by simp [Scan.enter, Document.candidatesBetween]
  regions := h.regions

/-- Without an open block, a line that is no marker changes nothing. -/
theorem IsClear.skip (h : s.IsClear config d i) (hk : d.kindAt? config i ≠ some .marker) :
    s.IsClear config d (i + 1) where
  context := h.context
  regions := by rw [h.regions, Document.markersBelow_succ, if_neg hk, List.append_nil]

/-- A line that does not close an open block leaves it open. -/
theorem IsOpen.unclosed_succ {start : Nat} (h : s.IsOpen config d i start)
    (hc : i ∉ d.closers config start) : ∀ j ∈ d.closers config start, i + 1 ≤ j := by
  intro j hj
  have hne : j ≠ i := fun heq => hc (heq ▸ hj)
  have := h.unclosed j hj
  omega

theorem IsOpen.skip {start : Nat} (h : s.IsOpen config d i start)
    (hc : i ∉ d.closers config start) (hk : d.kindAt? config i ≠ some .key) :
    s.IsOpen config d (i + 1) start where
  before := Nat.lt_succ_of_lt h.before
  marker := h.marker
  unclosed := h.unclosed_succ hc
  context := by
    rw [h.context, Document.candidatesBetween, Document.candidatesBetween,
      Document.keysBetween_succ h.before, if_neg hk, List.append_nil]
  regions := h.regions

/-- A key line inside an open block becomes a candidate. -/
theorem IsOpen.note {start : Nat} (h : s.IsOpen config d i start)
    (hc : i ∉ d.closers config start) (hk : d.kindAt? config i = some .key) :
    (s.note i (d.columnOf i)).IsOpen config d (i + 1) start where
  before := Nat.lt_succ_of_lt h.before
  marker := h.marker
  unclosed := h.unclosed_succ hc
  context := by
    rw [Scan.note, h.context, Document.candidatesBetween, Document.candidatesBetween,
      Document.keysBetween_succ h.before, if_pos hk, List.map_append]
    rfl
  regions := h.regions

/-- Without an open block, a line can only open one. -/
theorem IsClear.step {line : Line} {kind : Line.Kind} (h : s.IsClear config d i)
    (hl : d.lines[i]? = some line) (hk : Line.kind config line = .ok kind) :
    ∃ t, s.step d watched i line kind = .ok t ∧ t.Follows config d (i + 1) := by
  have hkind := Document.kindAt?_of_line hl hk
  have hcolumn := Document.columnOf_of_line hl
  by_cases hm : kind = .marker
  · subst hm
    refine ⟨s.enter i line.column, ?_, .inr ⟨i, hcolumn ▸ h.enter hkind⟩⟩
    simp [Scan.step, close_of_outside h.context, Except.map]
  · refine ⟨s, ?_, .inl (h.skip (by simpa [hkind] using hm))⟩
    simp [Scan.step, hm, h.context]

/-- A line that closes the open block completes its region; a marker opens the next block. -/
theorem IsOpen.step_of_closes {start : Nat} {line : Line} {kind : Line.Kind}
    (h : s.IsOpen config d i start) (hl : d.lines[i]? = some line)
    (hk : Line.kind config line = .ok kind) (hc : i ∈ d.closers config start)
    (hw : watched = true → d.lineCount ≤ Document.indexLimit) :
    ∃ t, s.step d watched i line kind = .ok t ∧ t.Follows config d (i + 1) := by
  have hkind := Document.kindAt?_of_line hl hk
  have hi : i ≤ d.lineCount := (List.getElem?_eq_some_iff.mp hl).1.le
  have hstop := Document.stopAfter_eq_of_isLeast ⟨hc, h.unclosed⟩
  obtain ⟨t, ht, hclear⟩ := h.close hstop hi hw
  by_cases hm : kind = .marker
  · subst hm
    refine ⟨t.enter i line.column, ?_, .inr ⟨i, ?_⟩⟩
    · simp [Scan.step, ht, Except.map]
    · exact Document.columnOf_of_line hl ▸ hclear.enter hkind
  · refine ⟨t, ?_, .inl (hclear.skip (by simpa [hkind] using hm))⟩
    -- Only a marker, a terminator or a line that is not deeper closes, and none of them is blank.
    have hreason := (Document.closesAt_of_line hl hk).mp hc.2
    have hb : kind ≠ .blank := by
      rintro rfl
      simp at hreason
    have hends : line.column ≤ d.columnOf start ∨ kind = .terminator := by tauto
    simp [Scan.step, hm, h.context, hb, hends, ht]

/-- A line that does not close the open block is a candidate if it is a key line. -/
theorem IsOpen.step_of_not_closes {start : Nat} {line : Line} {kind : Line.Kind}
    (h : s.IsOpen config d i start) (hl : d.lines[i]? = some line)
    (hk : Line.kind config line = .ok kind) (hc : i ∉ d.closers config start) :
    ∃ t, s.step d watched i line kind = .ok t ∧ t.Follows config d (i + 1) := by
  have hkind := Document.kindAt?_of_line hl hk
  have hopen : ¬ (kind = .marker ∨ kind = .terminator ∨
      kind ≠ .blank ∧ line.column ≤ d.columnOf start) := by
    rw [← Document.closesAt_of_line hl hk]
    exact fun hcloses => hc ⟨h.before, hcloses⟩
  have hm : kind ≠ .marker := by tauto
  by_cases hkey : kind = .key
  · subst hkey
    refine ⟨s.note i line.column, ?_, .inr ⟨start, ?_⟩⟩
    · have hdeep : ¬ line.column ≤ d.columnOf start := by simpa using hopen
      simp [Scan.step, h.context, hdeep]
    · exact Document.columnOf_of_line hl ▸ h.note hc hkind
  · refine ⟨s, ?_, .inr ⟨start, h.skip hc (by simpa [hkind] using hkey)⟩⟩
    by_cases hb : kind = .blank
    · simp [Scan.step, h.context, hb]
    · have hends : ¬ (line.column ≤ d.columnOf start ∨ kind = .terminator) := by tauto
      simp [Scan.step, hm, h.context, hb, hends, hkey]

/-- One line leads from one state of a walk to another. -/
theorem Follows.step {line : Line} {kind : Line.Kind} (h : s.Follows config d i)
    (hl : d.lines[i]? = some line) (hk : Line.kind config line = .ok kind)
    (hw : watched = true → d.lineCount ≤ Document.indexLimit) :
    ∃ t, s.step d watched i line kind = .ok t ∧ t.Follows config d (i + 1) := by
  rcases h with hclear | ⟨start, hopen⟩
  · exact hclear.step hl hk
  · by_cases hc : i ∈ d.closers config start
    · exact hopen.step_of_closes hl hk hc hw
    · exact hopen.step_of_not_closes hl hk hc

/-- A walk over the rest of a document gets to its end. -/
theorem Follows.walk {rest : List Line} (h : s.Follows config d i) (hrest : d.lines.drop i = rest)
    (hk : ∀ line ∈ rest, ∃ kind, Line.kind config line = .ok kind)
    (hw : watched = true → d.lineCount ≤ Document.indexLimit) :
    ∃ t, Scan.walk config d watched i rest s = (t, none) ∧
      t.Follows config d (i + rest.length) := by
  -- The induction is on the lines left; `hrest` ties them to the numbers that the states speak of.
  induction rest generalizing i s with
  | nil => exact ⟨s, rfl, h⟩
  | cons line rest ih =>
      obtain ⟨hl, hdrop⟩ := Document.line_of_drop hrest
      obtain ⟨kind, hkind⟩ := hk line (by simp)
      obtain ⟨t, ht, hfollows⟩ := h.step hl hkind hw
      obtain ⟨u, hu, hend⟩ := ih hfollows hdrop fun line hline => hk line (by simp [hline])
      refine ⟨u, by simp [Scan.walk, hkind, ht, hu], ?_⟩
      rwa [List.length_cons, Nat.add_comm rest.length 1, ← Nat.add_assoc]

/-- At the end of a document, closing what is still open completes the outline. -/
theorem Follows.finish (h : s.Follows config d d.lineCount)
    (hw : watched = true → d.lineCount ≤ Document.indexLimit) :
    ∃ t, s.close d watched d.lineCount = .ok t ∧ t.regions = d.outline config := by
  rcases h with hclear | ⟨start, hopen⟩
  · exact ⟨s, close_of_outside hclear.context, hclear.regions⟩
  · have hempty : d.closers config start = ∅ := by
      apply Set.eq_empty_of_forall_notMem
      intro j hj
      exact absurd (hopen.unclosed j hj) (Nat.not_le.mpr (Document.lt_lineCount_of_closesAt hj.2))
    obtain ⟨t, ht, hclear⟩ := hopen.close (Document.stopAfter_eq_lineCount hempty) le_rfl hw
    exact ⟨t, ht, hclear.regions⟩

/-- A walk that gets to its end has classified every line. -/
theorem kinds_of_walk {rest : List Line} {t : Scan}
    (h : Scan.walk config d watched i rest s = (t, none)) :
    ∀ line ∈ rest, ∃ kind, Line.kind config line = .ok kind := by
  induction rest generalizing i s with
  | nil => simp
  | cons line rest ih =>
      rw [Scan.walk] at h
      split at h
      · simp at h
      · rename_i kind hkind
        split at h
        · simp at h
        · rw [List.forall_mem_cons]
          exact ⟨⟨kind, hkind⟩, ih h⟩

end Scan

namespace Document

variable {config : Config} {d : Document} {watched : Bool}

/-- The survey of a document whose lines can all be classified gives its outline. -/
theorem survey_regions (hk : ∀ line ∈ d.lines, ∃ kind, Line.kind config line = .ok kind)
    (hw : watched = true → d.lineCount ≤ indexLimit) :
    (d.survey config watched).regions = .ok (d.outline config) := by
  have hstart : Scan.Follows config d {} 0 := .inl Scan.isClear_empty
  obtain ⟨s, hs, hfollows⟩ := hstart.walk List.drop_zero hk hw
  rw [Nat.zero_add] at hfollows
  obtain ⟨t, ht, hregions⟩ := hfollows.finish hw
  simp [survey, hs, ht, hregions]

/-- A survey gives regions exactly when every line of the document can be classified. -/
theorem survey_defined_iff (hw : watched = true → d.lineCount ≤ indexLimit) :
    (∃ rs, (d.survey config watched).regions = .ok rs) ↔
      ∀ line ∈ d.lines, ∃ kind, Line.kind config line = .ok kind := by
  constructor
  · rintro ⟨rs, hrs⟩
    cases hwalk : Scan.walk config d watched 0 d.lines {} with
    | mk s fault =>
        cases fault with
        | none => exact Scan.kinds_of_walk hwalk
        | some e => simp [survey, hwalk] at hrs
  · exact fun hk => ⟨d.outline config, survey_regions hk hw⟩

/-- One walk over a document whose lines can all be classified finds exactly one region for each
marker line, from the marker to the first line that closes its block, with the shallowest key lines
inside; the key lines of the document are those of its regions, one region after the other. -/
theorem regions_eq_ok_outline (hk : ∀ line ∈ d.lines, ∃ kind, Line.kind config line = .ok kind) :
    ∃ rs, d.regions config = .ok rs ∧
      (d.lineCount ≤ indexLimit → (d.survey config true).regions = .ok rs) ∧
      d.keyLines config = .ok (rs.flatMap (·.keyLines)) ∧
      ∀ ts, d.IsOutline config ts ↔ ts = rs := by
  have hregions : d.regions config = .ok (d.outline config) := survey_regions hk (by simp)
  refine ⟨d.outline config, hregions, fun hd => survey_regions hk fun _ => hd, ?_, ?_⟩
  · simp [keyLines, hregions, Except.map]
  · exact fun ts => isOutline_iff

/-- Two blocks: the first one has nested keys and a blank line and is closed by a terminator, the
second one is closed by the end of the document. -/
def twoBlocks : Document :=
  ⟨["const a = stylex.create(\x7b", "  base: \x7b", "    hover: \x7b", "    \x7d,", "",
    "  other: \x7b", "\x7d);", "stylex.keyframes(\x7b", "\t  from: \x7b", "\tto: \x7b"].map
      String.toList⟩

theorem regions_eq_ok_outline_twoBlocks :
    (∀ line ∈ twoBlocks.lines, ∃ kind, Line.kind {} line = .ok kind) ∧
      twoBlocks.regions {} = .ok [⟨0, 6, 0, [1, 5]⟩, ⟨7, 10, 0, [9]⟩] ∧
      ∀ ts, twoBlocks.IsOutline {} ts ↔ ts = [⟨0, 6, 0, [1, 5]⟩, ⟨7, 10, 0, [9]⟩] := by
  have hregions : twoBlocks.regions {} = .ok [⟨0, 6, 0, [1, 5]⟩, ⟨7, 10, 0, [9]⟩] :=
    Stages.eq_ok_of_toOption (by decide +kernel)
  have hk : ∀ line ∈ twoBlocks.lines, ∃ kind, Line.kind {} line = .ok kind :=
    (survey_defined_iff fun h : false = true => by cases h).mp ⟨_, hregions⟩
  obtain ⟨rs, hrs, -, -, hunique⟩ := regions_eq_ok_outline hk
  obtain rfl := Except.ok.inj (hregions.symm.trans hrs)
  exact ⟨hk, hregions, hunique⟩

end Document

end Foldline
