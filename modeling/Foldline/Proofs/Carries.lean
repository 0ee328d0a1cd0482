import Foldline.Proofs.Watching

/-! # Documents that carry the lines of others

A block depends only on the lines from its marker to its end and on what comes right after them.
When a document carries these lines some way further down, it has the same block there, moved by
that way, and the block is mixed in the one document exactly when it is in the other. -/

namespace Foldline

/-- A region some lines further down. -/
def Region.shift (n : Nat) (r : Region) : Region :=
  { start := r.start + n
    stop := r.stop + n
    column := r.column
    keyLines := r.keyLines.map (· + (n : Int)) }

/-- A warning some lines further down. -/
def Warning.shift (n : Nat) (w : Warning) : Warning := ⟨w.start + n⟩

@[simp] theorem Region.shift_zero (r : Region) : r.shift 0 = r := by
  simp [Region.shift]

@[simp] theorem Warning.shift_zero (w : Warning) : w.shift 0 = w := by
  simp [Warning.shift]

namespace Document

variable {config : Config} {d e : Document} {n lo hi s t i : Nat}

/-- Lines that are the same have the same kind. -/
theorem kindAt?_congr (h : e.lines[t]? = d.lines[s]?) :
    e.kindAt? config t = d.kindAt? config s := by
  rw [kindAt?, kindAt?, h]

theorem columnOf_congr (h : e.lines[t]? = d.lines[s]?) : e.columnOf t = d.columnOf s := by
  rw [columnOf, columnOf, h]

theorem closesAt_congr {column : Nat} (h : e.lines[t]? = d.lines[s]?) :
    e.closesAt config column t = d.closesAt config column s := by
  rw [closesAt, closesAt, kindAt?_congr h, h]

/-- The lines of `d` from `lo` up to `hi` stand in `e` too, `n` lines further down. -/
def Carries (e d : Document) (n lo hi : Nat) : Prop :=
  ∀ i, lo ≤ i → i < hi → e.lines[i + n]? = d.lines[i]?

namespace Carries

theorem kindAt? (h : e.Carries d n lo hi) (hlo : lo ≤ i) (hhi : i < hi) :
    e.kindAt? config (i + n) = d.kindAt? config i :=
  kindAt?_congr (h i hlo hhi)

theorem columnOf (h : e.Carries d n lo hi) (hlo : lo ≤ i) (hhi : i < hi) :
    e.columnOf (i + n) = d.columnOf i :=
  columnOf_congr (h i hlo hhi)

theorem indentOf (h : e.Carries d n lo hi) (hlo : lo ≤ i) (hhi : i < hi) :
    e.indentOf (i + n) = d.indentOf i := by
  rw [Document.indentOf, Document.indentOf, h i hlo hhi]

theorem closesAt {column : Nat} (h : e.Carries d n lo hi) (hlo : lo ≤ i) (hhi : i < hi) :
    e.closesAt config column (i + n) = d.closesAt config column i :=
  closesAt_congr (h i hlo hhi)

/-- The key lines between two lines are carried along. -/
theorem keysBetween (h : e.Carries d n s t) :
    e.keysBetween config (s + n) (t + n) = (d.keysBetween config s t).map (· + n) := by
  have hsorted : ((d.keysBetween config s t).map (· + n)).Pairwise (· < ·) := by
    rw [List.pairwise_map]
    exact (pairwise_keysBetween s t).imp fun hlt => Nat.add_lt_add_right hlt n
  apply (pairwise_keysBetween _ _).eq_of_mem_iff hsorted
  intro k
  rw [mem_keysBetween, List.mem_map]
  constructor
  · rintro ⟨hs, ht, hk⟩
    obtain ⟨j, rfl⟩ : ∃ j, k = j + n := ⟨k - n, by omega⟩
    have hsj : s < j := by omega
    have hjt : j < t := by omega
    rw [h.kindAt? hsj.le hjt] at hk
    exact ⟨j, mem_keysBetween.mpr ⟨hsj, hjt, hk⟩, rfl⟩
  · rintro ⟨j, hj, rfl⟩
    obtain ⟨hsj, hjt, hk⟩ := mem_keysBetween.mp hj
    exact ⟨by omega, by omega, (h.kindAt? hsj.le hjt).trans hk⟩

theorem columnOf_key (h : e.Carries d n s t) {k : Nat} (hk : k ∈ d.keysBetween config s t) :
    e.columnOf (k + n) = d.columnOf k := by
  obtain ⟨hsk, hkt, -⟩ := mem_keysBetween.mp hk
  exact h.columnOf hsk.le hkt

theorem topKeysBetween (h : e.Carries d n s t) :
    e.topKeysBetween config (s + n) (t + n) = (d.topKeysBetween config s t).map (· + n) := by
  rw [Document.topKeysBetween, Document.topKeysBetween, h.keysBetween, List.filter_map]
  congr 1
  apply List.filter_congr
  intro k hk
  rw [Function.comp_apply, List.all_map, Bool.eq_iff_iff, List.all_eq_true, List.all_eq_true]
  apply forall₂_congr
  intro j hj
  rw [Function.comp_apply, h.columnOf_key hk, h.columnOf_key hj]

theorem indents (h : e.Carries d n s t) :
    (e.keysBetween config (s + n) (t + n)).flatMap e.indentOf =
      (d.keysBetween config s t).flatMap d.indentOf := by
  rw [h.keysBetween, List.flatMap_map]
  apply List.flatMap_congr
  intro k hk
  obtain ⟨hsk, hkt, -⟩ := mem_keysBetween.mp hk
  exact h.indentOf hsk.le hkt

/-- A block that is carried along ends in the corresponding place if something ends it there. -/
theorem stopAfter (h : e.Carries d n s (d.stopAfter config s)) (hs : s < d.lineCount)
    (hend : e.closesAt config (d.columnOf s) (d.stopAfter config s + n) = true ∨
      d.stopAfter config s + n = e.lineCount) :
    e.stopAfter config (s + n) = d.stopAfter config s + n := by
  have hcolumn : e.columnOf (s + n) = d.columnOf s := h.columnOf le_rfl (lt_stopAfter hs)
  apply stopAfter_eq
  · exact Nat.add_lt_add_right (lt_stopAfter hs) n
  · intro j hj hlt
    obtain ⟨i, rfl⟩ : ∃ i, j = i + n := ⟨j - n, by omega⟩
    have hsi : s < i := by omega
    have hit : i < d.stopAfter config s := by omega
    rw [hcolumn, h.closesAt hsi.le hit]
    exact closesAt_of_lt_stopAfter hsi hit
  · rw [hcolumn]
    exact hend

/-- A block that is carried along has the same region, moved. -/
theorem blockAt (h : e.Carries d n s (d.stopAfter config s)) (hs : s < d.lineCount)
    (hstop : e.stopAfter config (s + n) = d.stopAfter config s + n) :
    e.blockAt config (s + n) = (d.blockAt config s).shift n := by
  have hcolumn : e.columnOf (s + n) = d.columnOf s := h.columnOf le_rfl (lt_stopAfter hs)
  have hkeys : (e.blockAt config (s + n)).keyLines =
      (d.blockAt config s).keyLines.map (· + (n : Int)) := by
    rw [keyLines_blockAt, keyLines_blockAt, hstop, h.topKeysBetween, List.map_map, List.map_map]
    rfl
  simp only [Document.blockAt, Region.shift, Region.mk.injEq] at hkeys ⊢
  refine ⟨Int.natCast_add s n, ?_, ?_, hkeys⟩
  · rw [hstop, Int.natCast_add]
  · rw [hcolumn]

/-- A block that is carried along is mixed or not as before. -/
theorem isMixedRegion (h : e.Carries d n s (d.stopAfter config s)) (hs : s < d.lineCount)
    (hstop : e.stopAfter config (s + n) = d.stopAfter config s + n) :
    e.isMixedRegion config ((d.blockAt config s).shift n) =
      d.isMixedRegion config (d.blockAt config s) := by
  have hindents : e.indentsOf config (e.blockAt config (s + n)) =
      d.indentsOf config (d.blockAt config s) := by
    simp only [indentsOf, Document.blockAt, Int.toNat_natCast, hstop]
    exact h.indents
  rw [← h.blockAt hs hstop, Document.isMixedRegion, Document.isMixedRegion, hindents]

end Carries

/-- Regions that are mixed or not as before give the same warnings, moved. -/
theorem remarks_shift {rs : List Region}
    (h : ∀ r ∈ rs, e.isMixedRegion config (r.shift n) = d.isMixedRegion config r) :
    e.remarks config (rs.map (·.shift n)) = (d.remarks config rs).map (·.shift n) := by
  have hfilter : rs.filter (e.isMixedRegion config ∘ fun r => r.shift n) =
      rs.filter (d.isMixedRegion config) := List.filter_congr h
  rw [remarks, remarks, List.filter_map, List.map_map, List.map_map, hfilter]
  rfl

end Document

end Foldline
