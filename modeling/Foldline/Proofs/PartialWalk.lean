import Foldline.Proofs.Watching

/-! # A walk before its end

What a walk remembers when it has gone over the lines before line `i`. Without an open block it
remembers nothing. With one, it knows the last marker line and its column, no line since then closes
the block, and the candidates are the key lines since then. The regions found so far follow one
another, and none of them reaches beyond the marker of the open block or, without one, beyond line
`i`. -/

namespace Foldline

namespace Document

variable (config : Config) (d : Document) (n : Nat) (rs : List Region)

/-- Regions found up to line `n`: one for each marker before it, one after the other, and none of
them reaches beyond it. -/
structure HasFound : Prop where
  blocks : List.Forall₂ (d.IsBlock config) (d.markersBelow config n) rs
  apart : rs.Pairwise fun r t => r.stop ≤ t.start
  within : ∀ r ∈ rs, r.start < r.stop ∧ r.stop ≤ n

variable {config d n rs}

/-- The blocks of the markers before a line are found up to it if they all stop there at the
latest. -/
theorem HasFound.of_blocks (hn : n ≤ d.lineCount)
    (hrs : rs = (d.markersBelow config n).map (d.blockAt config)) (hstop : ∀ r ∈ rs, r.stop ≤ n) :
    d.HasFound config n rs where
  blocks := by
    rw [hrs, List.forall₂_map_right_iff]
    exact List.forall₂_same.mpr fun m _ => isBlock_blockAt m
  apart := by
    rw [hrs]
    exact pairwise_blocks config d n
  within := by
    intro r hr
    refine ⟨?_, hstop r hr⟩
    rw [hrs] at hr
    obtain ⟨m, hm, rfl⟩ := List.mem_map.mp hr
    have hlt : m < d.lineCount := (mem_markersBelow.mp hm).1.trans_le hn
    exact Int.ofNat_lt.mpr (lt_stopAfter hlt)

end Document

namespace Scan

variable (config : Config) (d : Document) (i : Nat) (s : Scan)

/-- What is remembered before line `i` of the open block, which has its marker at line `start`. -/
structure Recalls (start : Nat) : Prop where
  start_eq : s.context.start = some (start : Int)
  before : start < i
  marker : d.kindAt? config start = some .marker
  column : s.context.column = d.columnOf start
  /-- No line since the marker is another marker or a terminator, and each one that is not blank is
  deeper than the marker. -/
  between : ∀ j line, start < j → j < i → d.lines[j]? = some line →
    Line.kind config line ≠ .ok .marker ∧ Line.kind config line ≠ .ok .terminator ∧
      (line.isBlank = false → d.columnOf start < line.column)
  candidates : ∃ keys : List Nat,
    s.context.candidates = keys.map (fun k : Nat => ⟨k, d.columnOf k⟩) ∧ keys.Pairwise (· < ·) ∧
      ∀ k, k ∈ keys ↔ start < k ∧ k < i ∧ d.kindAt? config k = some .key
  deeper : ∀ c ∈ s.context.candidates, s.context.column < c.column

/-- The line up to which blocks have been found: the marker of the open block or, without one, line
`i`. -/
def foundUpTo : Nat := (s.context.start.map Int.toNat).getD i

/-- Where a walk stands before line `i`. -/
structure Stands : Prop where
  outside_iff : s.context.state = .outside ↔ s.context.start = none
  nothing : s.context.state = .outside → s.context.column = 0 ∧ s.context.candidates = []
  recalls : s.context.state = .inside → ∃ start, s.Recalls config d i start
  found : d.HasFound config (s.foundUpTo i) s.regions

variable {config d i s} {watched : Bool} {t : Scan}

/-- Closing a block ends it at the line of the step, so no region reaches beyond the lines taken
into account. -/
theorem stop_le_of_close (hs : ∀ r ∈ s.regions, r.stop ≤ i) (hclose : s.close d watched i = .ok t) :
    ∀ r ∈ t.regions, r.stop ≤ i := by
  rcases close_cases hclose with ⟨-, rfl⟩ | ⟨start, mixed, -, -, -, rfl⟩
  · exact hs
  · intro r hr
    rcases List.mem_append.mp hr with hr | hr
    · exact hs r hr
    · rw [List.mem_singleton.mp hr]

theorem stop_le_of_step {line : Line} {kind : Line.Kind} (hs : ∀ r ∈ s.regions, r.stop ≤ i)
    (hstep : s.step d watched i line kind = .ok t) : ∀ r ∈ t.regions, r.stop ≤ i := by
  rcases step_cases hstep with ⟨u, hu, rfl⟩ | hclose | rfl | rfl
  · have hclosed : ∀ r ∈ u.regions, r.stop ≤ i := stop_le_of_close hs hu
    exact hclosed
  · exact stop_le_of_close hs hclose
  · exact hs
  · exact hs

/-- A walk over more lines goes on where the walk over the first of them has ended. -/
theorem walk_append {front : List Line} (back : List Line)
    (hfront : walk config d watched i front s = (t, none)) :
    walk config d watched i (front ++ back) s =
      walk config d watched (i + front.length) back t := by
  induction front generalizing i s with
  | nil =>
      obtain rfl : s = t := congrArg Prod.fst hfront
      rfl
  | cons line rest ih =>
      rw [walk] at hfront
      split at hfront
      · cases hfront
      · rename_i kind hkind
        split at hfront
        · cases hfront
        · rename_i u hstep
          rw [List.cons_append, walk, hkind]
          simp only [hstep]
          rw [ih hfront, List.length_cons, Nat.add_assoc, Nat.add_comm 1]

/-- The walk over the lines before line `i` gets to a state from which it can go on, and none of the
regions found reaches beyond line `i`. -/
theorem walk_take (hk : ∀ line ∈ d.lines, ∃ kind, Line.kind config line = .ok kind)
    (hw : watched = true → d.lineCount ≤ Document.indexLimit) (hi : i ≤ d.lineCount) :
    ∃ s, walk config d watched 0 (d.lines.take i) {} = (s, none) ∧ s.Follows config d i ∧
      ∀ r ∈ s.regions, r.stop ≤ i := by
  induction i with
  | zero => exact ⟨{}, rfl, .inl isClear_empty, by simp⟩
  | succ i ih =>
      obtain ⟨s, hs, hfollows, hstop⟩ := ih (Nat.le_of_succ_le hi)
      have hline : d.lines[i]? = some d.lines[i] := List.getElem?_eq_getElem hi
      obtain ⟨kind, hkind⟩ := hk d.lines[i] (List.getElem_mem hi)
      obtain ⟨t, ht, hnext⟩ := hfollows.step hline hkind hw
      refine ⟨t, ?_, hnext, ?_⟩
      · rw [List.take_add_one, hline, walk_append _ hs, List.length_take_of_le (Nat.le_of_lt hi)]
        simp [walk, hkind, ht]
      · intro r hr
        have hle := stop_le_of_step hstop ht r hr
        omega

/-- The state of an open block recalls it. -/
theorem IsOpen.recalls {start : Nat} (h : s.IsOpen config d i start) :
    s.Recalls config d i start := by
  have hopen : ∀ j, start < j → j < i → d.closesAt config (d.columnOf start) j = false := by
    intro j hj hlt
    rw [← Bool.not_eq_true]
    exact fun hcloses => absurd (h.unclosed j ⟨hj, hcloses⟩) (Nat.not_le.mpr hlt)
  refine ⟨by rw [h.context], h.before, h.marker, by rw [h.context], ?_, ?_, ?_⟩
  · intro j line hj hlt hl
    have hcloses := hopen j hj hlt
    simp only [Document.closesAt, Document.kindAt?, hl, Bool.or_eq_false_iff] at hcloses
    obtain ⟨⟨hmarker, hterminator⟩, hdeep⟩ := hcloses
    refine ⟨?_, ?_, ?_⟩
    · intro hkind
      simp [hkind, Except.toOption] at hmarker
    · intro hkind
      simp [hkind, Except.toOption] at hterminator
    · intro hblank
      simpa [hblank] using hdeep
  · rw [h.context]
    exact ⟨_, rfl, Document.pairwise_keysBetween start i, fun k => Document.mem_keysBetween⟩
  · rw [h.context]
    intro c hc
    obtain ⟨k, hk, rfl⟩ := List.mem_map.mp hc
    obtain ⟨hsk, hki, hkey⟩ := Document.mem_keysBetween.mp hk
    exact Int.ofNat_lt.mpr (Document.columnOf_lt_of_key hkey (hopen k hsk hki))

/-- The states that a walk can be in before line `i` are as described. -/
theorem Follows.stands (h : s.Follows config d i) (hstop : ∀ r ∈ s.regions, r.stop ≤ i)
    (hi : i ≤ d.lineCount) : s.Stands config d i := by
  rcases h with hclear | ⟨start, hopen⟩
  · have hupTo : s.foundUpTo i = i := by
      rw [foundUpTo, hclear.context]
      rfl
    refine ⟨by simp [hclear.context], by simp [hclear.context], by simp [hclear.context], ?_⟩
    rw [hupTo]
    exact .of_blocks hi hclear.regions hstop
  · have hupTo : s.foundUpTo i = start := by
      rw [foundUpTo, hopen.context]
      rfl
    refine ⟨by simp [hopen.context], by simp [hopen.context], fun _ => ⟨start, hopen.recalls⟩, ?_⟩
    rw [hupTo]
    apply Document.HasFound.of_blocks (hopen.before.le.trans hi) hopen.regions
    -- The blocks before the open one are closed by its marker.
    intro r hr
    rw [hopen.regions] at hr
    obtain ⟨m, hm, rfl⟩ := List.mem_map.mp hr
    exact Document.stop_blockAt_le (Document.mem_markersBelow.mp hm).1 hopen.marker

/-- Before each line of a document whose lines can all be classified, a walk stands in a state that
remembers what it has to and nothing else: without an open block it is as fresh as at the start;
with one it recalls the last marker and the key lines since then. The blocks found so far are those
of the markers before, they follow one another, and none reaches beyond the open block or the line.
From this state the walk over the whole document goes on. -/
theorem walk_stands (hk : ∀ line ∈ d.lines, ∃ kind, Line.kind config line = .ok kind)
    (hw : watched = true → d.lineCount ≤ Document.indexLimit) (hi : i ≤ d.lineCount) :
    ∃ s, walk config d watched 0 (d.lines.take i) {} = (s, none) ∧
      walk config d watched 0 d.lines {} = walk config d watched i (d.lines.drop i) s ∧
      s.Stands config d i := by
  obtain ⟨s, hs, hfollows, hstop⟩ := walk_take hk hw hi
  refine ⟨s, hs, ?_, hfollows.stands hstop hi⟩
  have hwhole := walk_append (d.lines.drop i) hs
  rwa [List.take_append_drop, List.length_take_of_le hi, Nat.zero_add] at hwhole

/-- In the middle of the first of two blocks, watched or not, and after its end. -/
theorem walk_stands_twoBlocks :
    (∀ line ∈ Document.twoBlocks.lines, ∃ kind, Line.kind {} line = .ok kind) ∧
      (∃ s, walk {} Document.twoBlocks true 0 (Document.twoBlocks.lines.take 4) {} = (s, none) ∧
        s.context = ⟨.inside, some 0, 0, [⟨1, 2⟩, ⟨2, 4⟩]⟩ ∧ s.regions = [] ∧
        s.Stands {} Document.twoBlocks 4) ∧
      ∃ s, walk {} Document.twoBlocks false 0 (Document.twoBlocks.lines.take 7) {} = (s, none) ∧
        s.context = {} ∧ s.regions = [⟨0, 6, 0, [1, 5]⟩] ∧ s.Stands {} Document.twoBlocks 7 := by
  have hk := (Document.survey_of_ok Document.survey_twoBlocks).1
  have hmiddle : walk {} Document.twoBlocks true 0 (Document.twoBlocks.lines.take 4) {} =
      (⟨⟨.inside, some 0, 0, [⟨1, 2⟩, ⟨2, 4⟩]⟩, [], []⟩, none) := by
    decide +kernel
  have hlater : walk {} Document.twoBlocks false 0 (Document.twoBlocks.lines.take 7) {} =
      (⟨{}, [⟨0, 6, 0, [1, 5]⟩], []⟩, none) := by
    decide +kernel
  have hwatched : true = true → Document.twoBlocks.lineCount ≤ Document.indexLimit := by decide
  have hunwatched : false = true → Document.twoBlocks.lineCount ≤ Document.indexLimit := by decide
  have hfour : 4 ≤ Document.twoBlocks.lineCount := by decide
  have hseven : 7 ≤ Document.twoBlocks.lineCount := by decide
  obtain ⟨s, hs, -, hstands⟩ := walk_stands hk hwatched hfour
  obtain ⟨t, ht, -, hafter⟩ := walk_stands hk hunwatched hseven
  obtain rfl := congrArg Prod.fst (hmiddle.symm.trans hs)
  obtain rfl := congrArg Prod.fst (hlater.symm.trans ht)
  exact ⟨hk, ⟨_, hmiddle, rfl, rfl, hstands⟩, _, hlater, rfl, rfl, hafter⟩

end Scan

end Foldline
