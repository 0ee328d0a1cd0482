import Foldline.Proofs.Walk

/-! # How far a block reaches

A block reaches from its marker to the first later line that closes it. No line in between closes
it, so the key lines inside are deeper than the marker and no other marker is inside. The regions of
an outline therefore follow one another, and the key lines of all of them ascend. -/

namespace Foldline

namespace Document

variable {config : Config} {d : Document} {s e : Nat}

/-- A block ends at the least line that closes it, or at the end of the document if none does. -/
theorem stopAfter_cases (config : Config) (d : Document) (s : Nat) :
    IsLeast (d.closers config s) (d.stopAfter config s) ∨
      d.closers config s = ∅ ∧ d.stopAfter config s = d.lineCount := by
  rcases isLeast_closers_or_empty config d s with ⟨e, he⟩ | hempty
  · left
    rw [stopAfter_eq_of_isLeast he]
    exact he
  · exact .inr ⟨hempty, stopAfter_eq_lineCount hempty⟩

theorem lt_stopAfter (hs : s < d.lineCount) : s < d.stopAfter config s := by
  rcases stopAfter_cases config d s with hleast | ⟨-, heq⟩
  · exact hleast.1.1
  · exact hs.trans_eq heq.symm

theorem stopAfter_le_lineCount (config : Config) (d : Document) (s : Nat) :
    d.stopAfter config s ≤ d.lineCount := by
  rcases stopAfter_cases config d s with hleast | ⟨-, heq⟩
  · exact (lt_lineCount_of_closesAt hleast.1.2).le
  · exact heq.le

/-- A later line that closes a block is not inside of it. -/
theorem stopAfter_le_of_closesAt {j : Nat} (hj : s < j)
    (hc : d.closesAt config (d.columnOf s) j = true) : d.stopAfter config s ≤ j := by
  rcases stopAfter_cases config d s with hleast | ⟨hempty, -⟩
  · exact hleast.2 ⟨hj, hc⟩
  · have hmem : j ∈ d.closers config s := ⟨hj, hc⟩
    rw [hempty] at hmem
    exact absurd hmem (Set.notMem_empty j)

/-- A block that ends before the end of the document is closed by the line where it ends. -/
theorem closesAt_stopAfter (h : d.stopAfter config s < d.lineCount) :
    d.closesAt config (d.columnOf s) (d.stopAfter config s) = true := by
  rcases stopAfter_cases config d s with hleast | ⟨-, heq⟩
  · exact hleast.1.2
  · exact absurd heq h.ne

/-- A block ends at a line that closes it, or at the end of the document, if no line before that
closes it. -/
theorem stopAfter_eq (hs : s < e)
    (hinside : ∀ j, s < j → j < e → d.closesAt config (d.columnOf s) j = false)
    (hend : d.closesAt config (d.columnOf s) e = true ∨ e = d.lineCount) :
    d.stopAfter config s = e := by
  have hfirst : ∀ j ∈ d.closers config s, e ≤ j := by
    intro j ⟨hj, hc⟩
    by_contra hlt
    rw [hinside j hj (Nat.lt_of_not_le hlt)] at hc
    cases hc
  rcases hend with hcloses | rfl
  · exact stopAfter_eq_of_isLeast ⟨⟨hs, hcloses⟩, hfirst⟩
  · apply stopAfter_eq_lineCount
    apply Set.eq_empty_of_forall_notMem
    intro j hj
    exact absurd (lt_lineCount_of_closesAt hj.2) (Nat.not_lt.mpr (hfirst j hj))

/-- Lines inside a block do not close it. -/
theorem closesAt_of_lt_stopAfter {j : Nat} (hj : s < j)
    (hlt : j < d.stopAfter config s) : d.closesAt config (d.columnOf s) j = false := by
  rw [← Bool.not_eq_true]
  intro hc
  exact absurd (stopAfter_le_of_closesAt hj hc) (Nat.not_le.mpr hlt)

/-- A key line that does not close a block is deeper than its marker. -/
theorem columnOf_lt_of_key {column k : Nat} (hk : d.kindAt? config k = some .key)
    (hc : d.closesAt config column k = false) : column < d.columnOf k := by
  obtain ⟨line, hl, hkind⟩ := kindAt?_eq_some_iff.mp hk
  rw [← Bool.not_eq_true, closesAt_of_line hl hkind] at hc
  rw [columnOf_of_line hl]
  simpa using hc

variable (config d) in
/-- The key lines between two lines at the least column of all of them. -/
def topKeysBetween (s e : Nat) : List Nat :=
  (d.keysBetween config s e).filter fun k =>
    (d.keysBetween config s e).all fun j => d.columnOf k ≤ d.columnOf j

theorem mem_topKeysBetween {k : Nat} :
    k ∈ d.topKeysBetween config s e ↔
      k ∈ d.keysBetween config s e ∧
        ∀ j ∈ d.keysBetween config s e, d.columnOf k ≤ d.columnOf j := by
  simp [topKeysBetween]

theorem pairwise_topKeysBetween (s e : Nat) : (d.topKeysBetween config s e).Pairwise (· < ·) :=
  (pairwise_keysBetween s e).filter _

/-- The keys of a block are at one column. -/
theorem columnOf_eq_of_topKeys {j k stop : Nat} (hj : j ∈ d.topKeysBetween config s stop)
    (hk : k ∈ d.topKeysBetween config s stop) : d.columnOf j = d.columnOf k := by
  obtain ⟨hkeyj, hleastj⟩ := mem_topKeysBetween.mp hj
  obtain ⟨hkeyk, hleastk⟩ := mem_topKeysBetween.mp hk
  exact Nat.le_antisymm (hleastj k hkeyk) (hleastk j hkeyj)

/-- A key of a block is a key line deeper than the marker, and no line on the way to it closes the
block. -/
theorem topKey_reach {k : Nat} (hk : k ∈ d.topKeysBetween config s (d.stopAfter config s)) :
    s < k ∧ d.columnOf s < d.columnOf k ∧
      (∀ j, s < j → j < k → d.closesAt config (d.columnOf s) j = false) ∧
      d.kindAt? config k = some .key := by
  obtain ⟨hsk, hke, hkey⟩ := mem_keysBetween.mp (mem_topKeysBetween.mp hk).1
  refine ⟨hsk, columnOf_lt_of_key hkey (closesAt_of_lt_stopAfter hsk hke), ?_, hkey⟩
  intro j hj hjk
  exact closesAt_of_lt_stopAfter hj (hjk.trans hke)

/-- The keys of a block are the top keys between its marker and its end. -/
theorem keyLines_blockAt (s : Nat) :
    (d.blockAt config s).keyLines =
      (d.topKeysBetween config s (d.stopAfter config s)).map Int.ofNat :=
  Scan.topLevel_map d.columnOf _

theorem mem_keyLines_blockAt {k : Nat} :
    (k : Int) ∈ (d.blockAt config s).keyLines ↔
      k ∈ d.topKeysBetween config s (d.stopAfter config s) := by
  rw [keyLines_blockAt]
  exact List.mem_map_of_injective fun _ _ => Int.ofNat.inj

/-- The regions of an outline are those of its marker lines. -/
theorem mem_outline {r : Region} :
    r ∈ d.outline config ↔
      ∃ s, s < d.lineCount ∧ d.kindAt? config s = some .marker ∧ r = d.blockAt config s := by
  simp [outline, mem_markersBelow, and_assoc, @eq_comm _ r]

/-- The key lines of all blocks are key lines inside the block of some marker. -/
theorem mem_keyLines_outline {line : Int} :
    line ∈ (d.outline config).flatMap (·.keyLines) ↔
      ∃ s k : Nat, line = k ∧ s < d.lineCount ∧ d.kindAt? config s = some .marker ∧
        k ∈ d.topKeysBetween config s (d.stopAfter config s) := by
  rw [List.mem_flatMap]
  constructor
  · rintro ⟨r, hr, hline⟩
    obtain ⟨s, hs, hmarker, rfl⟩ := mem_outline.mp hr
    rw [keyLines_blockAt] at hline
    obtain ⟨k, hk, rfl⟩ := List.mem_map.mp hline
    exact ⟨s, k, rfl, hs, hmarker, hk⟩
  · rintro ⟨s, k, rfl, hs, hmarker, hk⟩
    refine ⟨d.blockAt config s, mem_outline.mpr ⟨s, hs, hmarker, rfl⟩, ?_⟩
    rw [keyLines_blockAt]
    exact List.mem_map.mpr ⟨k, hk, rfl⟩

/-- A block stops at a later marker line at the latest. -/
theorem stop_blockAt_le {t : Nat} (hst : s < t) (hmarker : d.kindAt? config t = some .marker) :
    (d.blockAt config s).stop ≤ t :=
  Int.ofNat_le.mpr (stopAfter_le_of_closesAt hst (closesAt_of_marker hmarker))

/-- No block of a marker before line `n` starts before an earlier one has stopped. -/
theorem pairwise_blocks (config : Config) (d : Document) (n : Nat) :
    ((d.markersBelow config n).map (d.blockAt config)).Pairwise fun r t => r.stop ≤ t.start := by
  rw [List.pairwise_map]
  apply (pairwise_markersBelow n).imp_of_mem
  intro s t _ ht hlt
  exact stop_blockAt_le hlt (mem_markersBelow.mp ht).2

/-- No region starts before an earlier one has stopped. -/
theorem pairwise_outline (config : Config) (d : Document) :
    (d.outline config).Pairwise fun r t => r.stop ≤ t.start :=
  pairwise_blocks config d d.lineCount

theorem bounds_of_mem_keyLines {r : Region} {line : Int} (hr : r ∈ d.outline config)
    (hline : line ∈ r.keyLines) : r.start < line ∧ line < r.stop ∧ r.stop ≤ d.lineCount := by
  obtain ⟨s, -, -, rfl⟩ := mem_outline.mp hr
  rw [keyLines_blockAt] at hline
  obtain ⟨k, hk, rfl⟩ := List.mem_map.mp hline
  obtain ⟨hsk, hke, -⟩ := mem_keysBetween.mp (mem_topKeysBetween.mp hk).1
  exact ⟨Int.ofNat_lt.mpr hsk, Int.ofNat_lt.mpr hke,
    Int.ofNat_le.mpr (stopAfter_le_lineCount config d s)⟩

/-- The key lines of a document ascend, also from one block to the next. -/
theorem pairwise_keyLines_outline (config : Config) (d : Document) :
    ((d.outline config).flatMap (·.keyLines)).Pairwise (· < ·) := by
  apply List.pairwise_flatMap.mpr
  constructor
  · intro r hr
    obtain ⟨s, -, -, rfl⟩ := mem_outline.mp hr
    rw [keyLines_blockAt, List.pairwise_map]
    exact (pairwise_topKeysBetween s _).imp Int.ofNat_lt.mpr
  · apply (pairwise_outline config d).imp_of_mem
    intro r t hr ht hle x hx y hy
    calc
      x < r.stop := (bounds_of_mem_keyLines hr hx).2.1
      _ ≤ t.start := hle
      _ < y := (bounds_of_mem_keyLines ht hy).1

end Document

end Foldline
