import Foldline.Proofs.Closing
import Foldline.Proofs.LineKind
import Mathlib.Data.List.Sort
import Mathlib.Order.Lattice.Nat

/-! # The outline of a document

What the style blocks of a document are, said by looking at all of its lines at once. A block
belongs to each marker line. It ends at the least later line that closes it, and its keys are the
key lines inside of it at the least column among them. `IsBlock` says this of a region, `blockAt`
computes the one region that has the property.

## Implementation notes

Lines are counted from the start by natural numbers here. A region holds integers, because the
operations of a walk are also defined on lines that a document does not have. -/

namespace Foldline

namespace Document

variable (config : Config) (d : Document)

/-- The kind of the line at a place, if there is a line and it can be classified. -/
def kindAt? (i : Nat) : Option Line.Kind :=
  d.lines[i]?.bind fun line => (Line.kind config line).toOption

/-- The column of the line at a place. -/
def columnOf (i : Nat) : Nat := (d.lines[i]?.getD []).column

/-- Whether the line at a place closes a block with its marker at `column`: it is a marker, a
terminator, or a line that is not blank and not deeper than the marker. -/
def closesAt (column i : Nat) : Bool :=
  d.kindAt? config i == some .marker || d.kindAt? config i == some .terminator ||
    d.lines[i]?.any fun line => !line.isBlank && line.column ≤ column

/-- The lines that could close the block that opens at line `s`. -/
def closers (s : Nat) : Set Nat := { j | s < j ∧ d.closesAt config (d.columnOf s) j }

/-- The key lines between two lines, ascending. -/
def keysBetween (s e : Nat) : List Nat :=
  (List.range e).filter fun k => s < k && d.kindAt? config k == some .key

/-- The marker lines before line `n`, ascending. -/
def markersBelow (n : Nat) : List Nat :=
  (List.range n).filter fun s => d.kindAt? config s == some .marker

/-- Whether `r` is the region of the block that opens at line `s`. -/
structure IsBlock (s : Nat) (r : Region) : Prop where
  start : r.start = s
  column : r.column = d.columnOf s
  /-- The block stops at the least line that closes it, or at the end of the document. -/
  stop : ∃ e : Nat, r.stop = e ∧
    (IsLeast (d.closers config s) e ∨ d.closers config s = ∅ ∧ e = d.lineCount)
  /-- The keys are the key lines inside the block with the least column of all of them. -/
  keyLines : ∃ keys : List Nat, r.keyLines = keys.map Int.ofNat ∧ keys.Pairwise (· < ·) ∧
    ∀ k : Nat, k ∈ keys ↔
      (s < k ∧ (k : Int) < r.stop ∧ d.kindAt? config k = some .key) ∧
        ∀ j : Nat, s < j → (j : Int) < r.stop → d.kindAt? config j = some .key →
          d.columnOf k ≤ d.columnOf j

/-- One region for each marker line, in ascending order of these lines. -/
def IsOutline (rs : List Region) : Prop :=
  List.Forall₂ (d.IsBlock config) (d.markersBelow config d.lineCount) rs

/-- The line where the block that opens at line `s` stops. -/
def stopAfter (s : Nat) : Nat :=
  ((List.range d.lineCount).find? fun j =>
    s < j && d.closesAt config (d.columnOf s) j).getD d.lineCount

/-- The key lines between two lines, with their columns. -/
def candidatesBetween (s e : Nat) : List Scan.Candidate :=
  (d.keysBetween config s e).map fun k : Nat => ⟨k, d.columnOf k⟩

/-- The region of the block that opens at line `s`. -/
def blockAt (s : Nat) : Region :=
  { start := s
    stop := d.stopAfter config s
    column := d.columnOf s
    keyLines := Scan.topLevel (d.candidatesBetween config s (d.stopAfter config s)) }

/-- The regions of all blocks, in ascending order. -/
def outline : List Region := (d.markersBelow config d.lineCount).map (d.blockAt config)

variable {config d}

theorem kindAt?_of_line {i : Nat} {line : Line} {kind : Line.Kind} (hl : d.lines[i]? = some line)
    (hk : Line.kind config line = .ok kind) : d.kindAt? config i = some kind := by
  simp [kindAt?, hl, hk, Except.toOption]

/-- A line has a kind when it is there and is classified as of that kind. -/
theorem kindAt?_eq_some_iff {i : Nat} {kind : Line.Kind} :
    d.kindAt? config i = some kind ↔
      ∃ line, d.lines[i]? = some line ∧ Line.kind config line = .ok kind := by
  constructor
  · intro h
    obtain ⟨line, hl, hk⟩ := Option.bind_eq_some_iff.mp h
    exact ⟨line, hl, Stages.eq_ok_of_toOption hk⟩
  · rintro ⟨line, hl, hk⟩
    exact kindAt?_of_line hl hk

theorem columnOf_of_line {i : Nat} {line : Line} (hl : d.lines[i]? = some line) :
    d.columnOf i = line.column := by
  simp [columnOf, hl]

/-- On a line of a known kind, closing a block is a matter of that kind and of the column. -/
theorem closesAt_of_line {i column : Nat} {line : Line} {kind : Line.Kind}
    (hl : d.lines[i]? = some line) (hk : Line.kind config line = .ok kind) :
    d.closesAt config column i = true ↔
      kind = .marker ∨ kind = .terminator ∨ kind ≠ .blank ∧ line.column ≤ column := by
  have hb : line.isBlank = false ↔ kind ≠ .blank := by
    rw [← Bool.not_eq_true, ← Line.kind_eq_blank_iff config, hk]
    simp
  simp [closesAt, kindAt?_of_line hl hk, hl, hb, or_assoc]

theorem closesAt_of_marker {column i : Nat} (h : d.kindAt? config i = some .marker) :
    d.closesAt config column i = true := by
  simp [closesAt, h]

theorem lt_lineCount_of_closesAt {i column : Nat} (h : d.closesAt config column i = true) :
    i < d.lineCount := by
  by_contra hn
  have hl : d.lines[i]? = none := List.getElem?_eq_none (Nat.le_of_not_lt hn)
  simp [closesAt, kindAt?, hl] at h

theorem mem_keysBetween {s e k : Nat} :
    k ∈ d.keysBetween config s e ↔ s < k ∧ k < e ∧ d.kindAt? config k = some .key := by
  simp [keysBetween, and_left_comm]

theorem pairwise_keysBetween (s e : Nat) : (d.keysBetween config s e).Pairwise (· < ·) :=
  List.pairwise_lt_range.filter _

@[simp] theorem keysBetween_next (s : Nat) : d.keysBetween config s (s + 1) = [] := by
  simp only [keysBetween, List.filter_eq_nil_iff, List.mem_range]
  intro k hk
  simp [show ¬ s < k by omega]

/-- A line more adds itself if it is a key line. -/
theorem keysBetween_succ {s e : Nat} (h : s < e) :
    d.keysBetween config s (e + 1) =
      d.keysBetween config s e ++ if d.kindAt? config e = some .key then [e] else [] := by
  by_cases hk : d.kindAt? config e = some .key <;>
    simp [keysBetween, List.range_succ, List.filter_append, hk, h]

theorem mem_markersBelow {n i : Nat} :
    i ∈ d.markersBelow config n ↔ i < n ∧ d.kindAt? config i = some .marker := by
  simp [markersBelow]

theorem pairwise_markersBelow (n : Nat) : (d.markersBelow config n).Pairwise (· < ·) :=
  List.pairwise_lt_range.filter _

theorem markersBelow_succ (n : Nat) :
    d.markersBelow config (n + 1) =
      d.markersBelow config n ++ if d.kindAt? config n = some .marker then [n] else [] := by
  by_cases hk : d.kindAt? config n = some .marker <;>
    simp [markersBelow, List.range_succ, List.filter_append, hk]

/-- Lines without a marker among them add nothing to the markers. -/
theorem markersBelow_eq_of_le {m n : Nat} (h : m ≤ n)
    (hk : ∀ i, m ≤ i → i < n → d.kindAt? config i ≠ some .marker) :
    d.markersBelow config n = d.markersBelow config m := by
  induction n, h using Nat.le_induction with
  | base => rfl
  | succ n hn ih =>
      rw [markersBelow_succ, if_neg (hk n hn (Nat.lt_succ_self n)), List.append_nil]
      exact ih fun i hi hlt => hk i hi (Nat.lt_succ_of_lt hlt)

/-- The first line that closes a block is where it stops. -/
theorem stopAfter_eq_of_isLeast {s e : Nat} (h : IsLeast (d.closers config s) e) :
    d.stopAfter config s = e := by
  obtain ⟨⟨hs, hc⟩, hleast⟩ := h
  have hfind : (List.range d.lineCount).find?
      (fun j => s < j && d.closesAt config (d.columnOf s) j) = some e := by
    rw [List.find?_range_eq_some]
    refine ⟨by simp [hs, hc], List.mem_range.mpr (lt_lineCount_of_closesAt hc), ?_⟩
    intro j hj
    by_contra hn
    have hmem : j ∈ d.closers config s := by simpa [closers] using hn
    exact absurd (hleast hmem) (Nat.not_le.mpr hj)
  simp [stopAfter, hfind]

/-- A block that no line closes stops at the end of the document. -/
theorem stopAfter_eq_lineCount {s : Nat} (h : d.closers config s = ∅) :
    d.stopAfter config s = d.lineCount := by
  have hfind : (List.range d.lineCount).find?
      (fun j => s < j && d.closesAt config (d.columnOf s) j) = none := by
    rw [List.find?_eq_none]
    intro j _ hj
    have hmem : j ∈ d.closers config s := by simpa [closers] using hj
    simp [h] at hmem
  simp [stopAfter, hfind]

/-- Either some line closes a block, and a least one does, or none does. -/
theorem isLeast_closers_or_empty (config : Config) (d : Document) (s : Nat) :
    (∃ e, IsLeast (d.closers config s) e) ∨ d.closers config s = ∅ := by
  rcases Set.eq_empty_or_nonempty (d.closers config s) with h | h
  · exact .inr h
  · exact .inl ⟨sInf (d.closers config s), Nat.sInf_mem h, fun _ hj => Nat.sInf_le hj⟩

end Document

/-- Of lines with their columns, `topLevel` keeps the lines whose column no other line is left
of. -/
theorem Scan.topLevel_map (column : Nat → Nat) (lines : List Nat) :
    Scan.topLevel (lines.map fun k : Nat => ⟨k, column k⟩) =
      (lines.filter fun k => lines.all fun j => column k ≤ column j).map Int.ofNat := by
  rw [Scan.topLevel_eq_shallowest, Scan.shallowest, List.filter_map, List.map_map]
  simp [Function.comp_def]

namespace Document

variable {config : Config} {d : Document}

/-- The computed region is the region of its block. -/
theorem isBlock_blockAt (s : Nat) : d.IsBlock config s (d.blockAt config s) where
  start := rfl
  column := rfl
  stop := by
    refine ⟨d.stopAfter config s, rfl, ?_⟩
    rcases isLeast_closers_or_empty config d s with ⟨e, he⟩ | he
    · exact .inl (stopAfter_eq_of_isLeast he ▸ he)
    · exact .inr ⟨he, stopAfter_eq_lineCount he⟩
  keyLines := by
    refine ⟨_, Scan.topLevel_map d.columnOf _, (pairwise_keysBetween s _).filter _, ?_⟩
    intro k
    simp only [List.mem_filter, mem_keysBetween, List.all_eq_true, decide_eq_true_eq, blockAt,
      Int.ofNat_lt]
    constructor
    · rintro ⟨hk, hleast⟩
      exact ⟨hk, fun j hs he hj => hleast j ⟨hs, he, hj⟩⟩
    · rintro ⟨hk, hleast⟩
      exact ⟨hk, fun j hj => hleast j hj.1 hj.2.1 hj.2.2⟩

/-- A block has one region only. -/
theorem IsBlock.unique {s : Nat} {r t : Region} (hr : d.IsBlock config s r)
    (ht : d.IsBlock config s t) : r = t := by
  have hstop : r.stop = t.stop := by
    obtain ⟨e, he, hle⟩ := hr.stop
    obtain ⟨f, hf, hlf⟩ := ht.stop
    rw [he, hf]
    rcases hle with hle | ⟨hempty, rfl⟩ <;> rcases hlf with hlf | ⟨hempty', rfl⟩
    · rw [hle.unique hlf]
    · exact absurd (hempty' ▸ hle.1) (Set.notMem_empty e)
    · exact absurd (hempty ▸ hlf.1) (Set.notMem_empty f)
    · rfl
  have hkeys : r.keyLines = t.keyLines := by
    obtain ⟨ks, hks, hsorted, hmem⟩ := hr.keyLines
    obtain ⟨ls, hls, hsorted', hmem'⟩ := ht.keyLines
    rw [hks, hls, hsorted.eq_of_mem_iff hsorted' fun k => by rw [hmem, hmem', hstop]]
  have hstart : r.start = t.start := hr.start.trans ht.start.symm
  have hcolumn : r.column = t.column := hr.column.trans ht.column.symm
  cases r
  cases t
  simp_all

/-- A document has one outline. -/
theorem isOutline_iff {rs : List Region} : d.IsOutline config rs ↔ rs = d.outline config := by
  unfold IsOutline outline
  generalize d.markersBelow config d.lineCount = markers
  induction markers generalizing rs with
  | nil => simp
  | cons s rest ih =>
      rw [List.forall₂_cons_left_iff]
      constructor
      · rintro ⟨r, ts, hr, hts, rfl⟩
        rw [List.map_cons, ← ih.mp hts, hr.unique (isBlock_blockAt s)]
      · rintro rfl
        exact ⟨_, _, isBlock_blockAt s, ih.mpr rfl, rfl⟩

end Document

end Foldline
