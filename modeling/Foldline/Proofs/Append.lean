import Foldline.Proofs.Carries

/-! # One document after another

The blocks of a joined document are compared with those of its parts. The blocks of the second part
are always found again, further down. A block of the first part that is closed there stays as it is;
one that is still open at its end goes on into the second part, unless the first line there closes
it. When that line closes every block, the surveys of the parts follow one another. -/

namespace Foldline

namespace Document

instance : Append Document := ⟨fun a b => ⟨a.lines ++ b.lines⟩⟩

variable {config : Config} {a b d : Document} {watched : Bool} {s : Nat}

@[simp] theorem lines_append (a b : Document) : (a ++ b).lines = a.lines ++ b.lines := rfl

@[simp] theorem lineCount_append (a b : Document) :
    (a ++ b).lineCount = a.lineCount + b.lineCount := List.length_append

theorem carries_left {hi : Nat} (b : Document) (lo : Nat) (h : hi ≤ a.lineCount) :
    (a ++ b).Carries a 0 lo hi := by
  intro i _ hlt
  exact List.getElem?_append_left (hlt.trans_le h)

theorem carries_right (a b : Document) (lo hi : Nat) : (a ++ b).Carries b a.lineCount lo hi := by
  intro i _ _
  rw [lines_append, lineCount, List.getElem?_append_right (Nat.le_add_left _ _),
    Nat.add_sub_cancel]

theorem columnOf_append_left (hs : s < a.lineCount) : (a ++ b).columnOf s = a.columnOf s :=
  (carries_left b s le_rfl).columnOf le_rfl hs

/-- The markers of the first part come before those of the second part. -/
theorem markersBelow_append (config : Config) (a b : Document) :
    (a ++ b).markersBelow config (a ++ b).lineCount =
      a.markersBelow config a.lineCount ++
        (b.markersBelow config b.lineCount).map (· + a.lineCount) := by
  have hplace : (fun i => a.lineCount + i) = (· + a.lineCount) := by
    funext i
    exact Nat.add_comm a.lineCount i
  rw [lineCount_append, markersBelow, List.range_add, List.filter_append, hplace, List.filter_map]
  congr 1
  · apply List.filter_congr
    intro i hi
    have hkind : (a ++ b).kindAt? config i = a.kindAt? config i :=
      (carries_left b i le_rfl).kindAt? le_rfl (List.mem_range.mp hi)
    rw [hkind]
  · congr 1
    apply List.filter_congr
    intro i hi
    rw [Function.comp_apply, (carries_right a b i (i + 1)).kindAt? le_rfl (Nat.lt_succ_self i)]

/-- A block of the second part ends where it does there. -/
theorem stopAfter_append_right (hs : s < b.lineCount) :
    (a ++ b).stopAfter config (s + a.lineCount) = b.stopAfter config s + a.lineCount := by
  apply (carries_right a b s _).stopAfter hs
  rcases (stopAfter_le_lineCount config b s).lt_or_eq with hlt | heq
  · left
    rw [(carries_right a b s b.lineCount).closesAt (lt_stopAfter hs).le hlt]
    exact closesAt_stopAfter hlt
  · right
    rw [heq, lineCount_append, Nat.add_comm]

/-- A block of the first part ends where it does there, if it is closed there or right after. -/
theorem stopAfter_append_left (hs : s < a.lineCount)
    (hend : a.stopAfter config s < a.lineCount ∨
      (a ++ b).closesAt config (a.columnOf s) a.lineCount = true) :
    (a ++ b).stopAfter config s = a.stopAfter config s := by
  apply (carries_left b s (stopAfter_le_lineCount config a s)).stopAfter hs
  -- The line that closes the block is carried along, or it is the first line of the second part.
  left
  rcases (stopAfter_le_lineCount config a s).lt_or_eq with hlt | heq
  · rw [(carries_left b s le_rfl).closesAt (lt_stopAfter hs).le hlt]
    exact closesAt_stopAfter hlt
  · rw [heq]
    exact hend.resolve_left heq.not_lt

theorem blockAt_append_right (hs : s < b.lineCount) :
    (a ++ b).blockAt config (s + a.lineCount) = (b.blockAt config s).shift a.lineCount :=
  (carries_right a b s _).blockAt hs (stopAfter_append_right hs)

theorem blockAt_append_left (hs : s < a.lineCount)
    (hstop : (a ++ b).stopAfter config s = a.stopAfter config s) :
    (a ++ b).blockAt config s = a.blockAt config s := by
  have hcarries := carries_left b s (stopAfter_le_lineCount config a s)
  exact (hcarries.blockAt hs hstop).trans (Region.shift_zero _)

/-- If the first line of the second part closes every block, the outlines follow one another. -/
theorem outline_append
    (hcloses : ∀ column, (a ++ b).closesAt config column a.lineCount = true) :
    (a ++ b).outline config =
      a.outline config ++ (b.outline config).map (·.shift a.lineCount) := by
  rw [outline, markersBelow_append, List.map_append, List.map_map, outline, outline, List.map_map]
  congr 1
  · apply List.map_congr_left
    intro s hs
    have hlt := (mem_markersBelow.mp hs).1
    exact blockAt_append_left hlt (stopAfter_append_left hlt (.inr (hcloses _)))
  · apply List.map_congr_left
    intro s hs
    exact blockAt_append_right (mem_markersBelow.mp hs).1

/-- If the first line of the second part closes every block, the warnings follow one another. -/
theorem remarks_append
    (hcloses : ∀ column, (a ++ b).closesAt config column a.lineCount = true) :
    (a ++ b).remarks config ((a ++ b).outline config) =
      a.remarks config (a.outline config) ++
        (b.remarks config (b.outline config)).map (·.shift a.lineCount) := by
  have hleft : ∀ r ∈ a.outline config,
      (a ++ b).isMixedRegion config (r.shift 0) = a.isMixedRegion config r := by
    intro r hr
    obtain ⟨s, hs, -, rfl⟩ := mem_outline.mp hr
    have hcarries := carries_left b s (stopAfter_le_lineCount config a s)
    exact hcarries.isMixedRegion hs (stopAfter_append_left hs (.inr (hcloses _)))
  have hright : ∀ r ∈ b.outline config,
      (a ++ b).isMixedRegion config (r.shift a.lineCount) = b.isMixedRegion config r := by
    intro r hr
    obtain ⟨s, hs, -, rfl⟩ := mem_outline.mp hr
    exact (carries_right a b s _).isMixedRegion hs (stopAfter_append_right hs)
  have hshift := remarks_shift hleft
  simp only [Region.shift_zero, Warning.shift_zero, List.map_id'] at hshift
  rw [outline_append hcloses, remarks, List.filter_append, List.map_append]
  exact congrArg₂ (· ++ ·) hshift (remarks_shift hright)

/-- A line that is not blank and is a marker, a terminator or at the margin closes every block. -/
theorem closesAt_append_of_first {first : Line} (hfirst : b.lines.head? = some first)
    (hblank : first.isBlank = false)
    (hcloses : Line.kind config first = .ok .marker ∨ Line.kind config first = .ok .terminator ∨
      first.column = 0) (column : Nat) :
    (a ++ b).closesAt config column a.lineCount = true := by
  have hl : b.lines[0]? = some first := by rw [← List.head?_eq_getElem?, hfirst]
  rw [← Nat.zero_add a.lineCount, (carries_right a b 0 1).closesAt le_rfl Nat.one_pos]
  rcases hcloses with hm | ht | hc
  · simp [closesAt, kindAt?_of_line hl hm]
  · simp [closesAt, kindAt?_of_line hl ht]
  · simp [closesAt, hl, hblank, hc]

theorem kinds_append (ha : ∀ line ∈ a.lines, ∃ kind, Line.kind config line = .ok kind)
    (hb : ∀ line ∈ b.lines, ∃ kind, Line.kind config line = .ok kind) :
    ∀ line ∈ (a ++ b).lines, ∃ kind, Line.kind config line = .ok kind := by
  intro line hline
  rcases List.mem_append.mp hline with h | h
  · exact ha line h
  · exact hb line h

/-- When the first line of a second document closes every block, a survey of both documents together
gives the regions and the warnings of the first one, followed by those of the second one, moved by
the lines of the first. -/
theorem survey_append {first : Line}
    (ha : ∀ line ∈ a.lines, ∃ kind, Line.kind config line = .ok kind)
    (hb : ∀ line ∈ b.lines, ∃ kind, Line.kind config line = .ok kind)
    (hfirst : b.lines.head? = some first) (hblank : first.isBlank = false)
    (hcloses : Line.kind config first = .ok .marker ∨ Line.kind config first = .ok .terminator ∨
      first.column = 0)
    (hw : watched = true → (a ++ b).lineCount ≤ indexLimit) :
    ∃ rs ts, (a.survey config watched).regions = .ok rs ∧
      (b.survey config watched).regions = .ok ts ∧
      ((a ++ b).survey config watched).regions = .ok (rs ++ ts.map (·.shift a.lineCount)) ∧
      ((a ++ b).survey config watched).warnings = (a.survey config watched).warnings ++
        (b.survey config watched).warnings.map (·.shift a.lineCount) := by
  have hall : ∀ column, (a ++ b).closesAt config column a.lineCount = true :=
    closesAt_append_of_first hfirst hblank hcloses
  have hab := kinds_append ha hb
  have hwa : watched = true → a.lineCount ≤ indexLimit := fun h =>
    (Nat.le_add_right _ _).trans ((lineCount_append a b).symm.trans_le (hw h))
  have hwb : watched = true → b.lineCount ≤ indexLimit := fun h =>
    (Nat.le_add_left _ _).trans ((lineCount_append a b).symm.trans_le (hw h))
  refine ⟨a.outline config, b.outline config, survey_regions ha hwa, survey_regions hb hwb, ?_, ?_⟩
  · rw [survey_regions hab hw, outline_append hall]
  · rw [survey_warnings hab hw, survey_warnings ha hwa, survey_warnings hb hwb]
    cases watched with
    | false => rfl
    | true => exact remarks_append hall

/-- The first block of `twoBlocks` without the terminator that closes it. -/
def openBlock : Document := ⟨twoBlocks.lines.take 6⟩

/-- The terminator and the second block of `twoBlocks`. -/
def closedBlock : Document := ⟨twoBlocks.lines.drop 6⟩

theorem survey_append_openBlock :
    (openBlock.survey {} true).regions = .ok [⟨0, 6, 0, [1, 5]⟩] ∧
      (closedBlock.survey {} true).regions = .ok [⟨1, 4, 0, [3]⟩] ∧
      ((openBlock ++ closedBlock).survey {} true).regions =
        .ok [⟨0, 6, 0, [1, 5]⟩, ⟨7, 10, 0, [9]⟩] ∧
      ((openBlock ++ closedBlock).survey {} true).warnings = [⟨7⟩] := by
  have ha : (openBlock.survey {} true).regions = .ok [⟨0, 6, 0, [1, 5]⟩] :=
    Stages.eq_ok_of_toOption (by decide +kernel)
  have hb : (closedBlock.survey {} true).regions = .ok [⟨1, 4, 0, [3]⟩] :=
    Stages.eq_ok_of_toOption (by decide +kernel)
  have hkind : Line.kind {} "\x7d);".toList = .ok .terminator :=
    Stages.eq_ok_of_toOption (by decide +kernel)
  obtain ⟨rs, ts, hrs, hts, hregions, hwarnings⟩ := survey_append (survey_of_ok ha).1
    (survey_of_ok hb).1 rfl (by decide) (.inr (.inl hkind)) fun _ => by decide
  obtain rfl := Except.ok.inj (ha.symm.trans hrs)
  obtain rfl := Except.ok.inj (hb.symm.trans hts)
  have hnone : (openBlock.survey {} true).warnings = [] := by decide +kernel
  have hone : (closedBlock.survey {} true).warnings = [⟨1⟩] := by decide +kernel
  rw [hnone, hone] at hwarnings
  exact ⟨ha, hb, hregions, hwarnings⟩

/-- The top keys of a stretch that lie in its beginning are all top keys of that beginning, or there
are none. -/
theorem topKeysBetween_below {m n : Nat} (hmn : m ≤ n) :
    (d.topKeysBetween config s n).filter (· < m) = d.topKeysBetween config s m ∨
      (d.topKeysBetween config s n).filter (· < m) = [] := by
  have hkeys {k : Nat} : k ∈ d.keysBetween config s m ↔ k ∈ d.keysBetween config s n ∧ k < m := by
    rw [mem_keysBetween, mem_keysBetween]
    constructor
    · rintro ⟨hs, hm, hk⟩
      exact ⟨⟨hs, hm.trans_le hmn, hk⟩, hm⟩
    · rintro ⟨⟨hs, -, hk⟩, hm⟩
      exact ⟨hs, hm, hk⟩
  -- A key further to the left than the top keys of the beginning drops all of them.
  by_cases hleft : ∃ j ∈ d.keysBetween config s n, ∃ k ∈ d.topKeysBetween config s m,
      d.columnOf j < d.columnOf k
  · right
    obtain ⟨j, hj, top, htop, hlt⟩ := hleft
    rw [List.filter_eq_nil_iff]
    intro k hk hkm
    obtain ⟨hkn, hleast⟩ := mem_topKeysBetween.mp hk
    have hkey : k ∈ d.keysBetween config s m := hkeys.mpr ⟨hkn, of_decide_eq_true hkm⟩
    have htopk := (mem_topKeysBetween.mp htop).2 k hkey
    have hkj := hleast j hj
    omega
  · left
    apply ((pairwise_topKeysBetween s n).filter _).eq_of_mem_iff (pairwise_topKeysBetween s m)
    intro k
    rw [List.mem_filter, mem_topKeysBetween, mem_topKeysBetween, decide_eq_true_eq]
    constructor
    · rintro ⟨⟨hkn, hleast⟩, hkm⟩
      exact ⟨hkeys.mpr ⟨hkn, hkm⟩, fun j hj => hleast j (hkeys.mp hj).1⟩
    · rintro ⟨hk, hleast⟩
      refine ⟨⟨(hkeys.mp hk).1, fun j hj => ?_⟩, (hkeys.mp hk).2⟩
      by_contra hn
      exact hleft ⟨j, hj, k, mem_topKeysBetween.mpr ⟨hk, hleast⟩, Nat.lt_of_not_le hn⟩

/-- A block that is open at the end of the first part does not end before that. -/
theorem lineCount_le_stopAfter_append (hs : s < a.lineCount)
    (hopen : a.stopAfter config s = a.lineCount) :
    a.lineCount ≤ (a ++ b).stopAfter config s := by
  by_contra hn
  have hlt : (a ++ b).stopAfter config s < a.lineCount := Nat.lt_of_not_le hn
  have hafter : s < (a ++ b).stopAfter config s := by
    apply lt_stopAfter
    rw [lineCount_append]
    exact hs.trans_le (Nat.le_add_right _ _)
  have hcloses : (a ++ b).closesAt config (a.columnOf s) ((a ++ b).stopAfter config s) = true := by
    rw [← columnOf_append_left hs]
    apply closesAt_stopAfter
    rw [lineCount_append]
    exact hlt.trans_le (Nat.le_add_right _ _)
  have hclosesLeft : a.closesAt config (a.columnOf s) ((a ++ b).stopAfter config s) = true :=
    ((carries_left b s le_rfl).closesAt hafter.le hlt).symm.trans hcloses
  exact absurd (stopAfter_le_of_closesAt hafter hclosesLeft) (by omega)

/-- A block that is open at the end of the first part keeps all of its keys there or none. -/
theorem keyLines_append_below (hs : s < a.lineCount)
    (hopen : a.stopAfter config s = a.lineCount) :
    ((a ++ b).blockAt config s).keyLines.filter (· < (a.lineCount : Int)) =
        (a.blockAt config s).keyLines ∨
      ((a ++ b).blockAt config s).keyLines.filter (· < (a.lineCount : Int)) = [] := by
  have hsame : (a ++ b).topKeysBetween config s a.lineCount =
      a.topKeysBetween config s a.lineCount :=
    (carries_left b s le_rfl).topKeysBetween.trans (List.map_id' _)
  have hfilter (keys : List Nat) : (keys.map Int.ofNat).filter (· < (a.lineCount : Int)) =
      (keys.filter (· < a.lineCount)).map Int.ofNat := by
    rw [List.filter_map]
    congr 1
    apply List.filter_congr
    intro k _
    simp
  rw [keyLines_blockAt, keyLines_blockAt, hopen, hfilter, ← hsame]
  rcases topKeysBetween_below (lineCount_le_stopAfter_append hs hopen) with hall | hnone
  · left
    rw [hall]
  · right
    rw [hnone, List.map_nil]

/-- The blocks of the first part come first, each at its place. -/
theorem outline_append_getElem? {i : Nat} {r : Region} (h : (a.outline config)[i]? = some r) :
    ∃ s, s < a.lineCount ∧ r = a.blockAt config s ∧
      ((a ++ b).outline config)[i]? = some ((a ++ b).blockAt config s) := by
  rw [outline, List.getElem?_map] at h
  obtain ⟨s, hs, rfl⟩ := Option.map_eq_some_iff.mp h
  refine ⟨s, (mem_markersBelow.mp (List.mem_of_getElem? hs)).1, rfl, ?_⟩
  rw [outline, markersBelow_append, List.getElem?_map,
    List.getElem?_append_left (List.getElem?_eq_some_iff.mp hs).1, hs, Option.map_some]

/-- Only the last block of a document can be open at its end. -/
theorem stop_lt_of_mem_dropLast {r : Region} (hr : r ∈ (d.outline config).dropLast) :
    r.stop < d.lineCount := by
  have hne : d.outline config ≠ [] := List.ne_nil_of_mem (List.mem_of_mem_dropLast hr)
  have hpairs := pairwise_outline config d
  rw [← List.dropLast_concat_getLast hne, List.pairwise_append] at hpairs
  obtain ⟨s, hs, -, hlast⟩ := mem_outline.mp (List.getLast_mem hne)
  calc
    r.stop ≤ ((d.outline config).getLast hne).start := hpairs.2.2 r hr _ (List.mem_singleton_self _)
    _ = s := by rw [hlast]; rfl
    _ < d.lineCount := Int.ofNat_lt.mpr hs

/-- Appending lines to a document leaves its closed blocks as they are, and all blocks but the last
one are closed. A last block that is still open keeps its start and its column and does not end
before the lines appended; of its keys it keeps all or none. -/
theorem regions_append_stable
    (ha : ∀ line ∈ a.lines, ∃ kind, Line.kind config line = .ok kind)
    (hb : ∀ line ∈ b.lines, ∃ kind, Line.kind config line = .ok kind) :
    ∃ rs ts, a.regions config = .ok rs ∧ (a ++ b).regions config = .ok ts ∧
      (∀ r ∈ rs.dropLast, r.stop < a.lineCount) ∧
      (∀ (i : Nat) (r : Region), rs[i]? = some r → r.stop < a.lineCount → ts[i]? = some r) ∧
      ∀ r, rs.getLast? = some r → r.stop = a.lineCount →
        ∃ t, ts[rs.length - 1]? = some t ∧ t.start = r.start ∧ t.column = r.column ∧
          (a.lineCount : Int) ≤ t.stop ∧
          (t.keyLines.filter (· < (a.lineCount : Int)) = r.keyLines ∨
            t.keyLines.filter (· < (a.lineCount : Int)) = []) := by
  refine ⟨a.outline config, (a ++ b).outline config, survey_regions ha (by simp),
    survey_regions (kinds_append ha hb) (by simp), fun r hr => stop_lt_of_mem_dropLast hr, ?_, ?_⟩
  · intro i r hr hlt
    obtain ⟨s, hs, rfl, hi⟩ := outline_append_getElem? hr
    have hclosed : a.stopAfter config s < a.lineCount := Int.ofNat_lt.mp hlt
    rw [hi, blockAt_append_left hs (stopAfter_append_left hs (.inl hclosed))]
  · intro r hr hend
    rw [List.getLast?_eq_getElem?] at hr
    obtain ⟨s, hs, rfl, hi⟩ := outline_append_getElem? hr
    have hopen : a.stopAfter config s = a.lineCount := Int.ofNat.inj hend
    exact ⟨_, hi, rfl, congrArg Int.ofNat (columnOf_append_left hs),
      Int.ofNat_le.mpr (lineCount_le_stopAfter_append hs hopen), keyLines_append_below hs hopen⟩

/-- The last key of `twoBlocks` is further to the left than the key before it, which is dropped. -/
theorem regions_append_stable_twoBlocks :
    (Document.mk (twoBlocks.lines.take 9)).regions {} =
        .ok [⟨0, 6, 0, [1, 5]⟩, ⟨7, 9, 0, [8]⟩] ∧
      ∃ ts, (Document.mk (twoBlocks.lines.take 9) ++ ⟨twoBlocks.lines.drop 9⟩).regions {} = .ok ts ∧
        ts[0]? = some ⟨0, 6, 0, [1, 5]⟩ ∧
        ∃ t, ts[1]? = some t ∧ t.start = 7 ∧ t.column = 0 ∧ 9 ≤ t.stop ∧
          (t.keyLines.filter (· < (9 : Int)) = [8] ∨ t.keyLines.filter (· < (9 : Int)) = []) := by
  have ha : (Document.mk (twoBlocks.lines.take 9)).regions {} =
      .ok [⟨0, 6, 0, [1, 5]⟩, ⟨7, 9, 0, [8]⟩] := Stages.eq_ok_of_toOption (by decide +kernel)
  have hb : (Document.mk (twoBlocks.lines.drop 9)).regions {} = .ok [] :=
    Stages.eq_ok_of_toOption (by decide +kernel)
  obtain ⟨rs, ts, hrs, hts, -, hclosed, hlast⟩ :=
    regions_append_stable (survey_of_ok ha).1 (survey_of_ok hb).1
  obtain rfl := Except.ok.inj (ha.symm.trans hrs)
  exact ⟨ha, ts, hts, hclosed 0 _ rfl (by decide), hlast _ rfl rfl⟩

end Document

end Foldline
