import Foldline.Proofs.Carries

/-! # The bodies of keys

Between the keys of a block stand their bodies. The lines of bodies can be replaced by any others
that are blank, or deeper than the keys and neither open nor close a block. Lines can become key
lines or stop being key lines in that way, but they are never the shallowest ones, and they do not
end the block. The other blocks do not reach into this one, so all regions stay as they are. -/

namespace Foldline

/-- What can stand in the body of a key at column `m`: a blank line, or a deeper line that neither
opens nor closes a block. -/
def Line.IsBody (config : Config) (m : Nat) (line : Line) : Prop :=
  line.isBlank = true ∨
    ∃ kind, Line.kind config line = .ok kind ∧ kind ≠ .marker ∧ kind ≠ .terminator ∧ m < line.column

/-- A line in a body can be classified. It neither opens nor closes a block, and it is deeper than
the key unless it is blank. -/
theorem Line.IsBody.exists_kind {config : Config} {m : Nat} {line : Line}
    (h : line.IsBody config m) :
    ∃ kind, Line.kind config line = .ok kind ∧ kind ≠ .marker ∧ kind ≠ .terminator ∧
      (kind ≠ .blank → m < line.column) := by
  rcases h with hblank | ⟨kind, hkind, hm, ht, hdeep⟩
  · exact ⟨.blank, (Line.kind_eq_blank_iff config).mpr hblank, by simp, by simp, by simp⟩
  · exact ⟨kind, hkind, hm, ht, fun _ => hdeep⟩

namespace Document

variable {config : Config} {d e : Document} {s t key i : Nat} {watched : Bool}

/-- A line in a body does not close a block to the left of it. -/
theorem closesAt_of_isBody {column m : Nat} {line : Line} (hl : e.lines[i]? = some line)
    (h : line.IsBody config m) (hcolumn : column ≤ m) : e.closesAt config column i = false := by
  obtain ⟨kind, hkind, hm, ht, hdeep⟩ := h.exists_kind
  rw [← Bool.not_eq_true, closesAt_of_line hl hkind]
  rintro (hmarker | hterminator | ⟨hblank, hle⟩)
  · exact hm hmarker
  · exact ht hterminator
  · have hlt := hdeep hblank
    omega

variable (config d e s key) in
/-- The block that opens at line `s` of `d` has a key at line `key`, and `e` differs from `d` only
in lines of this block that are no keys, where it has lines of bodies. -/
structure EditsBodies : Prop where
  start : s < d.lineCount
  key_mem : key ∈ d.topKeysBetween config s (d.stopAfter config s)
  lineCount_eq : e.lineCount = d.lineCount
  lines : ∀ i, e.lines[i]? = d.lines[i]? ∨
    (s < i ∧ i < d.stopAfter config s ∧ i ∉ d.topKeysBetween config s (d.stopAfter config s)) ∧
      ∃ line, e.lines[i]? = some line ∧ line.IsBody config (d.columnOf key)

namespace EditsBodies

/-- Lines up to the marker of the block and lines from its end on are not edited. -/
theorem line_eq (h : EditsBodies config d e s key) (hi : i ≤ s ∨ d.stopAfter config s ≤ i) :
    e.lines[i]? = d.lines[i]? := by
  rcases h.lines i with heq | ⟨⟨hs, hstop, -⟩, -⟩
  · exact heq
  · omega

/-- The keys of the block are not edited. -/
theorem line_eq_of_key (h : EditsBodies config d e s key)
    (hi : i ∈ d.topKeysBetween config s (d.stopAfter config s)) : e.lines[i]? = d.lines[i]? := by
  rcases h.lines i with heq | ⟨⟨-, -, hnot⟩, -⟩
  · exact heq
  · exact absurd hi hnot

/-- Editing neither makes a marker nor takes one away. -/
theorem marker_iff (h : EditsBodies config d e s key) :
    e.kindAt? config i = some .marker ↔ d.kindAt? config i = some .marker := by
  rcases h.lines i with heq | ⟨⟨hs, hstop, -⟩, line, hl, hbody⟩
  · rw [kindAt?_congr heq]
  · obtain ⟨kind, hkind, hm, -⟩ := hbody.exists_kind
    constructor
    · intro hmarker
      rw [kindAt?_of_line hl hkind] at hmarker
      exact absurd (Option.some.inj hmarker) hm
    · intro hmarker
      have hopen := closesAt_of_lt_stopAfter hs hstop
      rw [closesAt_of_marker hmarker] at hopen
      cases hopen

theorem columnOf_start (h : EditsBodies config d e s key) : e.columnOf s = d.columnOf s :=
  columnOf_congr (h.line_eq (.inl le_rfl))

/-- The edited block ends where it did. -/
theorem stopAfter_start (h : EditsBodies config d e s key) :
    e.stopAfter config s = d.stopAfter config s := by
  have hleft : d.columnOf s ≤ d.columnOf key := (topKey_reach h.key_mem).2.1.le
  apply stopAfter_eq (lt_stopAfter h.start)
  · intro j hj hstop
    rw [h.columnOf_start]
    rcases h.lines j with heq | ⟨-, line, hl, hbody⟩
    · rw [closesAt_congr heq, closesAt_of_lt_stopAfter hj hstop]
    · exact closesAt_of_isBody hl hbody hleft
  · rcases (stopAfter_le_lineCount config d s).lt_or_eq with hlt | hend
    · left
      rw [h.columnOf_start, closesAt_congr (h.line_eq (.inr le_rfl)), closesAt_stopAfter hlt]
    · right
      rw [hend, h.lineCount_eq]

/-- A key line of the edited block is a key line as before, or it is deeper than the keys. -/
theorem key_cases (h : EditsBodies config d e s key) {stop : Nat}
    (hi : i ∈ e.keysBetween config s stop) :
    e.lines[i]? = d.lines[i]? ∧ i ∈ d.keysBetween config s stop ∨
      d.columnOf key < e.columnOf i := by
  obtain ⟨hs, hstop, hkey⟩ := mem_keysBetween.mp hi
  rcases h.lines i with heq | ⟨-, line, hl, hbody⟩
  · left
    rw [kindAt?_congr heq] at hkey
    exact ⟨heq, mem_keysBetween.mpr ⟨hs, hstop, hkey⟩⟩
  · right
    obtain ⟨kind, hkind, -, -, hdeep⟩ := hbody.exists_kind
    rw [kindAt?_of_line hl hkind] at hkey
    obtain rfl := Option.some.inj hkey
    rw [columnOf_of_line hl]
    exact hdeep (by simp)

/-- The keys of the block are key lines of the edited block. -/
theorem mem_keysBetween_of_key (h : EditsBodies config d e s key)
    (hi : i ∈ d.topKeysBetween config s (d.stopAfter config s)) :
    i ∈ e.keysBetween config s (d.stopAfter config s) := by
  obtain ⟨hs, hstop, hkey⟩ := mem_keysBetween.mp (mem_topKeysBetween.mp hi).1
  rw [← kindAt?_congr (h.line_eq_of_key hi)] at hkey
  exact mem_keysBetween.mpr ⟨hs, hstop, hkey⟩

/-- The edited block has the keys it had. -/
theorem topKeysBetween_start (h : EditsBodies config d e s key) :
    e.topKeysBetween config s (d.stopAfter config s) =
      d.topKeysBetween config s (d.stopAfter config s) := by
  have hleast := (mem_topKeysBetween.mp h.key_mem).2
  apply (pairwise_topKeysBetween _ _).eq_of_mem_iff (pairwise_topKeysBetween _ _)
  intro i
  constructor
  · intro hi
    obtain ⟨hkey, htop⟩ := mem_topKeysBetween.mp hi
    -- The key that is known still stands there, so a shallowest key line is no deeper.
    have hle : e.columnOf i ≤ d.columnOf key := by
      calc
        e.columnOf i ≤ e.columnOf key := htop key (h.mem_keysBetween_of_key h.key_mem)
        _ = d.columnOf key := columnOf_congr (h.line_eq_of_key h.key_mem)
    rcases h.key_cases hkey with ⟨heq, hkeyOld⟩ | hdeep
    · rw [columnOf_congr heq] at hle
      exact mem_topKeysBetween.mpr ⟨hkeyOld, fun j hj => hle.trans (hleast j hj)⟩
    · omega
  · intro hi
    obtain ⟨-, htop⟩ := mem_topKeysBetween.mp hi
    apply mem_topKeysBetween.mpr
    refine ⟨h.mem_keysBetween_of_key hi, ?_⟩
    intro j hj
    rw [columnOf_congr (h.line_eq_of_key hi)]
    rcases h.key_cases hj with ⟨heq, hkeyOld⟩ | hdeep
    · rw [columnOf_congr heq]
      exact htop j hkeyOld
    · exact (htop key (mem_topKeysBetween.mp h.key_mem).1).trans hdeep.le

theorem blockAt_start (h : EditsBodies config d e s key) :
    e.blockAt config s = d.blockAt config s := by
  have hkeys : (e.blockAt config s).keyLines = (d.blockAt config s).keyLines := by
    rw [keyLines_blockAt, keyLines_blockAt, h.stopAfter_start, h.topKeysBetween_start]
  simp only [blockAt, Region.mk.injEq, true_and] at hkeys ⊢
  exact ⟨congrArg Int.ofNat h.stopAfter_start, congrArg Int.ofNat h.columnOf_start, hkeys⟩

/-- The other blocks do not reach into the edited one. -/
theorem blockAt_other (h : EditsBodies config d e s key)
    (hs : d.kindAt? config s = some .marker) (hlt : t < d.lineCount)
    (ht : d.kindAt? config t = some .marker) (hne : t ≠ s) :
    e.blockAt config t = d.blockAt config t := by
  have hout : ∀ i, t ≤ i → i ≤ d.stopAfter config t → i ≤ s ∨ d.stopAfter config s ≤ i := by
    intro i hti hit
    rcases Nat.lt_or_gt_of_ne hne with hbefore | hafter
    · left
      exact hit.trans (stopAfter_le_of_closesAt hbefore (closesAt_of_marker hs))
    · right
      exact (stopAfter_le_of_closesAt hafter (closesAt_of_marker ht)).trans hti
  have hcarries : e.Carries d 0 t (d.stopAfter config t) :=
    fun i hti hit => h.line_eq (hout i hti hit.le)
  have hend : e.closesAt config (d.columnOf t) (d.stopAfter config t + 0) = true ∨
      d.stopAfter config t + 0 = e.lineCount := by
    rcases (stopAfter_le_lineCount config d t).lt_or_eq with hclosed | hopen
    · left
      rw [Nat.add_zero, closesAt_congr (h.line_eq (hout _ (lt_stopAfter hlt).le le_rfl)),
        closesAt_stopAfter hclosed]
    · right
      rw [Nat.add_zero, hopen, h.lineCount_eq]
  exact (hcarries.blockAt hlt (hcarries.stopAfter hlt hend)).trans (Region.shift_zero _)

/-- Editing the bodies of keys leaves the outline as it is. -/
theorem outline_eq (h : EditsBodies config d e s key)
    (hs : d.kindAt? config s = some .marker) : e.outline config = d.outline config := by
  have hmarkers : e.markersBelow config e.lineCount = d.markersBelow config d.lineCount := by
    rw [h.lineCount_eq]
    apply List.filter_congr
    intro i _
    rw [Bool.eq_iff_iff, beq_iff_eq, beq_iff_eq]
    exact h.marker_iff
  rw [outline, outline, hmarkers]
  apply List.map_congr_left
  intro t ht
  by_cases hts : t = s
  · rw [hts]
    exact h.blockAt_start
  · obtain ⟨hlt, hmarker⟩ := mem_markersBelow.mp ht
    exact h.blockAt_other hs hlt hmarker hts

/-- If every line could be classified, every line still can. -/
theorem kinds (h : EditsBodies config d e s key)
    (hk : ∀ line ∈ d.lines, ∃ kind, Line.kind config line = .ok kind) :
    ∀ line ∈ e.lines, ∃ kind, Line.kind config line = .ok kind := by
  intro line hline
  obtain ⟨i, hl⟩ := List.getElem?_of_mem hline
  rcases h.lines i with heq | ⟨-, body, hbody, hisBody⟩
  · exact hk line (List.mem_of_getElem? (heq.symm.trans hl))
  · obtain rfl : body = line := Option.some.inj (hbody.symm.trans hl)
    obtain ⟨kind, hkind, -⟩ := hisBody.exists_kind
    exact ⟨kind, hkind⟩

end EditsBodies

/-- A document with the lines replaced for which `edit` has another one. -/
def replaceLines (d : Document) (edit : Nat → Option Line) : Document :=
  ⟨d.lines.mapIdx fun i line => (edit i).getD line⟩

/-- Lines of a document replaced between the keys of one of its blocks. -/
theorem editsBodies_replaceLines {edit : Nat → Option Line} (hs : s < d.lineCount)
    (hkey : key ∈ d.topKeysBetween config s (d.stopAfter config s))
    (hedit : ∀ i line, edit i = some line →
      (s < i ∧ i < d.stopAfter config s ∧ i ∉ d.topKeysBetween config s (d.stopAfter config s)) ∧
        line.IsBody config (d.columnOf key)) :
    EditsBodies config d (d.replaceLines edit) s key where
  start := hs
  key_mem := hkey
  lineCount_eq := List.length_mapIdx
  lines := by
    intro i
    have hline : (d.replaceLines edit).lines[i]? = d.lines[i]?.map fun line => (edit i).getD line :=
      List.getElem?_mapIdx
    cases hi : edit i with
    | none =>
        left
        rw [hline, hi]
        exact Option.map_id'
    | some line =>
        right
        obtain ⟨hinside, hbody⟩ := hedit i line hi
        have hlt : i < d.lineCount := hinside.2.1.trans_le (stopAfter_le_lineCount config d s)
        refine ⟨hinside, line, ?_, hbody⟩
        rw [hline, hi, List.getElem?_eq_getElem hlt]
        rfl

/-- The keys of a region are at one column. Any lines inside the region that are no keys of it can
be replaced by lines that are blank, or deeper than the keys and neither open nor close a block: a
survey gives the same regions as before. -/
theorem survey_replaceLines {rs : List Region} {r : Region} {edit : Nat → Option Line}
    (hrs : (d.survey config watched).regions = .ok rs) (hr : r ∈ rs)
    (hkey : (key : Int) ∈ r.keyLines)
    (hedit : ∀ (i : Nat) (line : Line), edit i = some line →
      (r.start < i ∧ (i : Int) < r.stop ∧ (i : Int) ∉ r.keyLines) ∧
        line.IsBody config (d.columnOf key))
    (hw : watched = true → d.lineCount ≤ indexLimit) :
    (∀ k : Nat, (k : Int) ∈ r.keyLines → d.columnOf k = d.columnOf key) ∧
      ((d.replaceLines edit).survey config watched).regions = .ok rs := by
  obtain ⟨hk, rfl, -⟩ := survey_of_ok hrs
  obtain ⟨s, hs, hmarker, rfl⟩ := mem_outline.mp hr
  rw [mem_keyLines_blockAt] at hkey
  constructor
  · intro k hkLine
    exact columnOf_eq_of_topKeys (mem_keyLines_blockAt.mp hkLine) hkey
  · have hedits : EditsBodies config d (d.replaceLines edit) s key := by
      apply editsBodies_replaceLines hs hkey
      intro i line hi
      obtain ⟨⟨hafter, hbefore, hnot⟩, hbody⟩ := hedit i line hi
      rw [mem_keyLines_blockAt] at hnot
      exact ⟨⟨Int.ofNat_lt.mp hafter, Int.ofNat_lt.mp hbefore, hnot⟩, hbody⟩
    have hcount : watched = true → (d.replaceLines edit).lineCount ≤ indexLimit := by
      intro h
      rw [hedits.lineCount_eq]
      exact hw h
    rw [survey_regions (hedits.kinds hk) hcount, hedits.outline_eq hmarker]

/-- In the first block of `twoBlocks` a nested key becomes a blank line, and the line after it,
which is no key, becomes a nested key. -/
def nestedEdit (i : Nat) : Option Line :=
  if i = 2 then some []
  else if i = 3 then some "   focus: \x7b".toList
  else none

theorem survey_replaceLines_twoBlocks :
    (twoBlocks.survey {} true).regions = .ok [⟨0, 6, 0, [1, 5]⟩, ⟨7, 10, 0, [9]⟩] ∧
      Line.kind {} "   focus: \x7b".toList = .ok .key ∧
      ((twoBlocks.replaceLines nestedEdit).survey {} true).regions =
        .ok [⟨0, 6, 0, [1, 5]⟩, ⟨7, 10, 0, [9]⟩] := by
  have hkind : Line.kind {} "   focus: \x7b".toList = .ok .key :=
    Stages.eq_ok_of_toOption (by decide +kernel)
  have hr : (⟨0, 6, 0, [1, 5]⟩ : Region) ∈ [⟨0, 6, 0, [1, 5]⟩, ⟨7, 10, 0, [9]⟩] := by decide
  have hkey : ((1 : Nat) : Int) ∈ [(1 : Int), 5] := by decide
  have hw : true = true → twoBlocks.lineCount ≤ indexLimit := fun _ => by decide
  refine ⟨survey_twoBlocks, hkind, (survey_replaceLines survey_twoBlocks hr hkey ?_ hw).2⟩
  intro i line hi
  unfold nestedEdit at hi
  split_ifs at hi with htwo hthree
  · subst htwo
    obtain rfl := Option.some.inj hi
    exact ⟨by decide, .inl rfl⟩
  · subst hthree
    obtain rfl := Option.some.inj hi
    exact ⟨by decide, .inr ⟨.key, hkind, by decide, by decide, by decide⟩⟩

end Document

end Foldline
