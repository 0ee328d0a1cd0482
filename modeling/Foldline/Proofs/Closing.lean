import Foldline.Proofs.Settings
import Foldline.Region

/-! # Closing a block

Closing looks at the lines of the candidates, then warns, adds the region and forgets the block.
Only the look at the lines and the warning can fail, and nothing has changed by then: a closing that
fails leaves the state of the walk as it was. Else the open block becomes one region, and its keys
are the candidates that no other one is left of.

## Implementation notes

The operations are given numbers, not lines of a document, so a candidate can be on a line that the
document does not have or at a column that the line does not have, and a block can start at a line
with a number too long to be written. A walk over a document makes no use of this. -/

namespace Foldline

namespace Text.Numeral

theorem canWrite_eq_false_iff {n : Int} :
    canWrite n = false ↔ maxDigits < (Nat.toDigits 10 n.natAbs).length := by
  rw [canWrite, decide_eq_false_iff_not, Nat.not_le]

/-- A number with which lines can be counted can be written. -/
theorem canWrite_of_le {n : Nat} (h : n ≤ Document.indexLimit) : canWrite n = true := by
  have hsmall : n < 10 ^ maxDigits := by
    calc n ≤ Document.indexLimit := h
      _ < 10 ^ 19 := by decide
      _ ≤ 10 ^ maxDigits := Nat.pow_le_pow_right (by decide) (by decide)
  rw [canWrite, decide_eq_true_iff, Int.natAbs_natCast]
  exact (Nat.length_toDigits_le_iff (by decide) (by decide)).mpr hsmall

theorem canWrite_pow {k : Nat} (h : maxDigits ≤ k) : canWrite (Nat.pow 10 k : Nat) = false := by
  rw [canWrite_eq_false_iff, Int.natAbs_natCast, ← Nat.not_le,
    Nat.length_toDigits_le_iff (by decide) (by decide), Nat.not_lt]
  exact Nat.pow_le_pow_right (by decide) h

end Text.Numeral

namespace Document

variable {d : Document} {index : Int}

/-- As long as lines can be counted, the number of a line is an index from either end. -/
theorem isIndex_of_lt (hd : d.lineCount ≤ indexLimit) (hlow : -(d.lineCount : Int) ≤ index)
    (hhigh : index < d.lineCount) : isIndex index = true := by
  simp only [isIndex, Bool.and_eq_true, decide_eq_true_eq]
  omega

/-- An index leads to a line if it is one of the numbers from the first line to the last or, below
zero, from the last line back to the first. -/
theorem exists_lineAt_eq_ok (hd : d.lineCount ≤ indexLimit) (hlow : -(d.lineCount : Int) ≤ index)
    (hhigh : index < d.lineCount) : ∃ line, d.lineAt index = .ok line := by
  have hindex := isIndex_of_lt hd hlow hhigh
  unfold lineAt
  extract_lets place
  have hplace : 0 ≤ place ∧ place < d.lineCount := by
    simp only [place]
    split <;> omega
  have hline : place.toNat < d.lines.length := (Int.toNat_lt hplace.1).mpr hplace.2
  simp [hindex, Int.not_lt.mpr hplace.1, List.getElem?_eq_getElem hline]

theorem exists_lineAt_eq_error
    (h : index < -(d.lineCount : Int) ∨ (d.lineCount : Int) ≤ index) :
    ∃ e, d.lineAt index = .error e := by
  unfold lineAt
  extract_lets place
  have hplace : place < 0 ∨ (d.lines.length : Int) ≤ place := by
    simp only [place]
    unfold lineCount at h ⊢
    split <;> omega
  split
  · exact ⟨_, rfl⟩
  · rcases hplace with hplace | hplace
    · exact ⟨_, if_pos hplace⟩
    · have hline : d.lines.length ≤ place.toNat := by omega
      rw [if_neg (by omega), List.getElem?_eq_none hline]
      exact ⟨_, rfl⟩

end Document

namespace Scan

variable {d : Document} {watched mixed : Bool} {start stop : Int} {cs : List Candidate}
  {s t : Scan} {e : Fault}

/-- The lines of the candidates that no other candidate is left of, in order. -/
def shallowest (cs : List Candidate) : List Int :=
  (cs.filter fun c => cs.all fun b => c.column ≤ b.column).map (·.line)

/-- The candidates at the least column are those that no other one is left of. -/
theorem topLevel_eq_shallowest (cs : List Candidate) : topLevel cs = shallowest cs := by
  unfold topLevel leastColumn? shallowest
  cases hleast : (cs.map (·.column)).min? with
  | none =>
      have hnil : cs = [] := by simpa using hleast
      simp [hnil]
  | some least =>
      rw [List.min?_eq_some_iff] at hleast
      obtain ⟨hmem, hle⟩ := hleast
      obtain ⟨b, hb, hcolumn⟩ := List.mem_map.mp hmem
      have hsame (c : Candidate) (hc : c ∈ cs) :
          (c.column == least) = cs.all fun b => c.column ≤ b.column := by
        rw [Bool.eq_iff_iff, beq_iff_eq, List.all_eq_true]
        constructor
        · rintro rfl a ha
          exact decide_eq_true (hle a.column (List.mem_map.mpr ⟨a, ha, rfl⟩))
        · intro hall
          have hcb : c.column ≤ b.column := of_decide_eq_true (hall b hb)
          have hbc := hle c.column (List.mem_map.mpr ⟨c, hc, rfl⟩)
          omega
      simp only [List.filter_congr hsame]

/-! ## Looking at the candidates -/

/-- Candidates on lines of the document can all be looked at. -/
theorem leadings_eq_ok (h : ∀ c ∈ cs, ∃ line, d.lineAt c.line = .ok line) :
    ∃ chars, leadings d cs = .ok chars := by
  induction cs with
  | nil => exact ⟨[], rfl⟩
  | cons c rest ih =>
      obtain ⟨line, hline⟩ := h c (by simp)
      obtain ⟨chars, hchars⟩ := ih fun c hc => h c (by simp [hc])
      exact ⟨leading c.column line ++ chars, by simp [leadings, hline, hchars, Except.map]⟩

/-- Looking at candidates fails at a line that is not there. -/
theorem leadings_eq_error (h : leadings d cs = .error e) :
    ∃ c ∈ cs, ∃ fault, d.lineAt c.line = .error fault ∧ e = .index fault := by
  induction cs with
  | nil => cases h
  | cons c rest ih =>
      rw [leadings] at h
      split at h
      · obtain ⟨b, hb, hfault⟩ := ih (Stages.map_eq_error_iff.mp h)
        exact ⟨b, List.mem_cons_of_mem c hb, hfault⟩
      · rename_i fault hline
        exact ⟨c, List.mem_cons_self, fault, hline, (Except.error.inj h).symm⟩

/-- A look at candidates that succeeds finds all their lines. -/
theorem lineAt_of_leadings {chars : List Char} (h : leadings d cs = .ok chars) :
    ∀ c ∈ cs, ∃ line, d.lineAt c.line = .ok line := by
  induction cs generalizing chars with
  | nil => simp
  | cons c rest ih =>
      rw [leadings] at h
      split at h
      · rename_i line hline
        obtain ⟨later, hlater, -⟩ := Stages.map_eq_ok_iff.mp h
        exact List.forall_mem_cons.mpr ⟨⟨line, hline⟩, ih hlater⟩
      · cases h

theorem mem_leading_iff {n : Int} {text : Line} {ch : Char} :
    ch ∈ leading n text ↔
      ∃ k : Nat, text[k]? = some ch ∧ (k : Int) < if 0 ≤ n then n else text.length + n := by
  have htake (m : Nat) : ch ∈ text.take m ↔ ∃ k : Nat, text[k]? = some ch ∧ k < m := by
    simp [List.mem_iff_getElem?, List.getElem?_take, and_comm]
  unfold leading
  split
  · simp only [htake, Int.lt_toNat]
  · have hbound (k : Nat) : k < text.length - n.natAbs ↔ (k : Int) < text.length + n := by omega
    simp only [htake, hbound]

variable (d cs) in
/-- The character `ch` stands in front of the column of some candidate. A line that ends before the
column is in front of it as a whole; a column below zero is counted from the end of the line. -/
def HasInFront (ch : Char) : Prop :=
  ∃ c ∈ cs, ∃ text, d.lineAt c.line = .ok text ∧ ∃ k : Nat, text[k]? = some ch ∧
    (k : Int) < if 0 ≤ c.column then c.column else text.length + c.column

/-- A look at candidates that succeeds sees what stands in front of their columns. -/
theorem mem_leadings_iff {chars : List Char} {ch : Char} (h : leadings d cs = .ok chars) :
    ch ∈ chars ↔ HasInFront d cs ch := by
  unfold HasInFront
  simp only [← mem_leading_iff]
  induction cs generalizing chars with
  | nil =>
      obtain rfl := Except.ok.inj h
      simp
  | cons c rest ih =>
      rw [leadings] at h
      split at h
      · rename_i line hline
        obtain ⟨later, hlater, rfl⟩ := Stages.map_eq_ok_iff.mp h
        simp [ih hlater, hline]
      · cases h

variable (d cs) in
/-- A space and a tab stand in front of the columns of candidates. -/
def HasBothInFront : Prop := HasInFront d cs ' ' ∧ HasInFront d cs '\t'

theorem isMixed_eq_ok (h : isMixed d cs = .ok mixed) : mixed = true ↔ HasBothInFront d cs := by
  obtain ⟨chars, hchars, rfl⟩ := Stages.map_eq_ok_iff.mp h
  rw [Bool.and_eq_true, List.contains_iff_mem, List.contains_iff_mem, mem_leadings_iff hchars,
    mem_leadings_iff hchars, HasBothInFront]

variable (d) in
/-- A candidate is missing when its line is none of the document's, counted from either end. -/
def Candidate.IsMissing (c : Candidate) : Prop :=
  c.line < -(d.lineCount : Int) ∨ (d.lineCount : Int) ≤ c.line

/-- As long as lines can be counted, looking at candidates fails when one of them is missing. -/
theorem isMixed_eq_error_iff (hd : d.lineCount ≤ Document.indexLimit) :
    (∃ e, isMixed d cs = .error e) ↔ ∃ c ∈ cs, c.IsMissing d := by
  simp only [isMixed, Stages.map_eq_error_iff]
  constructor
  · rintro ⟨e, he⟩
    obtain ⟨c, hc, fault, hfault, -⟩ := leadings_eq_error he
    refine ⟨c, hc, ?_⟩
    rcases Int.lt_or_le c.line (-(d.lineCount : Int)) with hlow | hlow
    · exact .inl hlow
    rcases Int.lt_or_le c.line (d.lineCount : Int) with hhigh | hhigh
    · obtain ⟨line, hline⟩ := Document.exists_lineAt_eq_ok hd hlow hhigh
      cases hfault.symm.trans hline
    · exact .inr hhigh
  · rintro ⟨c, hc, hout⟩
    obtain ⟨fault, hfault⟩ := Document.exists_lineAt_eq_error hout
    cases hleadings : leadings d cs with
    | error e => exact ⟨e, rfl⟩
    | ok chars =>
        obtain ⟨line, hline⟩ := lineAt_of_leadings hleadings c hc
        cases hfault.symm.trans hline

/-! ## What closing does -/

theorem run_warn_of_canWrite (h : Text.Numeral.canWrite (start + 1) = true) :
    (warn ⟨start⟩).run s = .ok () { s with warnings := s.warnings ++ [⟨start⟩] } := by
  simp [warn, h]

theorem run_warn_of_not_canWrite (h : Text.Numeral.canWrite (start + 1) = false) :
    (warn ⟨start⟩).run s = .error .tooManyDigits s := by
  simp only [warn, h]
  rfl

theorem run_closeBlock_of_outside (h : s.context.state ≠ .inside ∨ s.context.start = none) :
    (closeBlock d watched stop).run s = .ok () s := by
  cases hstate : s.context.state with
  | outside => simp [closeBlock, EStateM.run_bind, hstate]
  | inside =>
      have hstart : s.context.start = none := h.resolve_left (not_not_intro hstate)
      simp [closeBlock, EStateM.run_bind, hstate, hstart]

/-- The state after the open block, which starts at line `start`, has been closed at line `stop`:
its region is added, and a warning if its candidates are mixed. -/
def closed (s : Scan) (start stop : Int) (mixed : Bool) : Scan where
  context := {}
  regions := s.regions ++ [⟨start, stop, s.context.column, topLevel s.context.candidates⟩]
  warnings := if mixed then s.warnings ++ [⟨start⟩] else s.warnings

theorem run_closeBlock_of_inside (hstate : s.context.state = .inside)
    (hstart : s.context.start = some start)
    (hm : (if watched then isMixed d s.context.candidates else .ok false) = .ok mixed)
    (hwrite : mixed = true → Text.Numeral.canWrite (start + 1) = true) :
    (closeBlock d watched stop).run s = .ok () (s.closed start stop mixed) := by
  unfold closed
  cases watched with
  | false =>
      obtain rfl : false = mixed := Except.ok.inj hm
      simp [closeBlock, EStateM.run_bind, hstate, hstart, collect, leave]
  | true =>
      rw [if_pos rfl] at hm
      cases mixed with
      | false => simp [closeBlock, EStateM.run_bind, hstate, hstart, hm, ofExcept, collect, leave]
      | true =>
          simp [closeBlock, EStateM.run_bind, hstate, hstart, hm, ofExcept,
            run_warn_of_canWrite (hwrite rfl), collect, leave]

/-- Without a watch an open block is closed whatever its candidates are. -/
theorem run_closeBlock_unwatched (hstate : s.context.state = .inside)
    (hstart : s.context.start = some start) :
    (closeBlock d false stop).run s = .ok () (s.closed start stop false) := by
  have hm : (if false then isMixed d s.context.candidates else .ok false) = .ok false := rfl
  exact run_closeBlock_of_inside hstate hstart hm nofun

variable (d watched start s) in
/-- The fault `e` keeps an open block from being closed: the line of a candidate is not there, or
there is something to warn of and the number in the warning is too long. -/
def Spoils (e : Fault) : Prop :=
  watched = true ∧ (isMixed d s.context.candidates = .error e ∨
    isMixed d s.context.candidates = .ok true ∧ Text.Numeral.canWrite (start + 1) = false ∧
      e = .tooManyDigits)

/-- Faults come before all changes. -/
theorem run_closeBlock_of_spoils (hstate : s.context.state = .inside)
    (hstart : s.context.start = some start) (h : s.Spoils d watched start e) :
    (closeBlock d watched stop).run s = .error e s := by
  obtain ⟨rfl, hm | ⟨hm, hwrite, rfl⟩⟩ := h
  · simp only [closeBlock, EStateM.run_bind, EStateM.run_get, hstate, hstart, hm, ofExcept, if_true]
    rfl
  · simp [closeBlock, EStateM.run_bind, hstate, hstart, hm, ofExcept,
      run_warn_of_not_canWrite hwrite]

/-- What closing does: nothing without an open block; else it closes the block, or it fails and
leaves the state as it was. -/
theorem closeBlock_cases (d : Document) (watched : Bool) (stop : Int) (s : Scan) :
    (s.context.state ≠ .inside ∨ s.context.start = none) ∧
        (closeBlock d watched stop).run s = .ok () s ∨
      ∃ start, s.context.state = .inside ∧ s.context.start = some start ∧
        ((∃ mixed, (if watched then isMixed d s.context.candidates else .ok false) = .ok mixed ∧
            (mixed = true → Text.Numeral.canWrite (start + 1) = true) ∧
            (closeBlock d watched stop).run s = .ok () (s.closed start stop mixed)) ∨
          ∃ e, s.Spoils d watched start e ∧ (closeBlock d watched stop).run s = .error e s) := by
  by_cases hout : s.context.state ≠ .inside ∨ s.context.start = none
  · exact .inl ⟨hout, run_closeBlock_of_outside hout⟩
  obtain ⟨hinside, hsome⟩ := not_or.mp hout
  have hstate : s.context.state = .inside := Decidable.not_not.mp hinside
  obtain ⟨start, hstart⟩ := Option.ne_none_iff_exists'.mp hsome
  refine .inr ⟨start, hstate, hstart, ?_⟩
  have hfails {e : Fault} (h : s.Spoils d watched start e) :
      ∃ e, s.Spoils d watched start e ∧ (closeBlock d watched stop).run s = .error e s :=
    ⟨e, h, run_closeBlock_of_spoils hstate hstart h⟩
  cases hm : (if watched then isMixed d s.context.candidates else .ok false) with
  | error e =>
      cases watched with
      | false => cases hm
      | true => exact .inr (hfails ⟨rfl, .inl hm⟩)
  | ok mixed =>
      by_cases hwrite : mixed = true → Text.Numeral.canWrite (start + 1) = true
      · exact .inl ⟨mixed, rfl, hwrite, run_closeBlock_of_inside hstate hstart hm hwrite⟩
      · obtain ⟨rfl, hlong⟩ := Classical.not_imp.mp hwrite
        cases watched with
        | false => cases hm
        | true => exact .inr (hfails ⟨rfl, .inr ⟨hm, Bool.eq_false_iff.mpr hlong, rfl⟩⟩)

theorem close_of_run (h : (closeBlock d watched stop).run s = .ok () t) :
    s.close d watched stop = .ok t := by
  simp only [close, h]

theorem close_of_outside (h : s.context = {}) : s.close d watched stop = .ok s :=
  close_of_run (run_closeBlock_of_outside (.inr (by rw [h])))

theorem close_of_inside {column : Int} (h : s.context = ⟨.inside, some start, column, cs⟩)
    (hm : (if watched then isMixed d cs else .ok false) = .ok mixed)
    (hwrite : mixed = true → Text.Numeral.canWrite (start + 1) = true) :
    s.close d watched stop = .ok (s.closed start stop mixed) := by
  have hstate : s.context.state = .inside := by rw [h]
  have hstart : s.context.start = some start := by rw [h]
  have hcandidates : s.context.candidates = cs := by rw [h]
  rw [← hcandidates] at hm
  exact close_of_run (run_closeBlock_of_inside hstate hstart hm hwrite)

/-- A closing that succeeds does nothing without an open block, and else closes it. -/
theorem close_cases (h : s.close d watched stop = .ok t) :
    (s.context.state ≠ .inside ∨ s.context.start = none) ∧ t = s ∨
      ∃ start mixed, s.context.state = .inside ∧ s.context.start = some start ∧
        (if watched then isMixed d s.context.candidates else .ok false) = .ok mixed ∧
        t = s.closed start stop mixed := by
  unfold close at h
  rcases closeBlock_cases d watched stop s with
    ⟨hout, hrun⟩ | ⟨start, hstate, hstart, ⟨mixed, hm, -, hrun⟩ | ⟨e, -, hrun⟩⟩
  · rw [hrun] at h
    exact .inl ⟨hout, (Except.ok.inj h).symm⟩
  · rw [hrun] at h
    exact .inr ⟨start, mixed, hstate, hstart, hm, (Except.ok.inj h).symm⟩
  · rw [hrun] at h
    cases h

/-! ## All or nothing -/

/-- As long as lines can be counted, an open block is kept from being closed under watch by a
missing candidate, or by a warning with a number that is too long. -/
theorem exists_spoils_iff (hd : d.lineCount ≤ Document.indexLimit) :
    (∃ e, s.Spoils d true start e) ↔
      (∃ c ∈ s.context.candidates, c.IsMissing d) ∨ HasBothInFront d s.context.candidates ∧
        Text.Numeral.maxDigits < (Nat.toDigits 10 (start + 1).natAbs).length := by
  rw [← isMixed_eq_error_iff hd, ← Text.Numeral.canWrite_eq_false_iff]
  constructor
  · rintro ⟨e, -, hm | ⟨hm, hwrite, -⟩⟩
    · exact .inl ⟨e, hm⟩
    · exact .inr ⟨(isMixed_eq_ok hm).mp rfl, hwrite⟩
  · rintro (⟨e, hm⟩ | ⟨hboth, hwrite⟩)
    · exact ⟨e, rfl, .inl hm⟩
    · cases hm : isMixed d s.context.candidates with
      | error e => exact ⟨e, rfl, .inl hm⟩
      | ok mixed =>
          obtain rfl : mixed = true := (isMixed_eq_ok hm).mpr hboth
          exact ⟨.tooManyDigits, rfl, .inr ⟨hm, hwrite, rfl⟩⟩

/-- A fault is about an index if a candidate is missing, and about a number if none is. -/
theorem Spoils.cases (h : s.Spoils d watched start e) (hd : d.lineCount ≤ Document.indexLimit) :
    (∃ fault, e = .index fault) ∧ (∃ c ∈ s.context.candidates, c.IsMissing d) ∨
      e = .tooManyDigits ∧ ∀ c ∈ s.context.candidates, ¬c.IsMissing d := by
  obtain ⟨-, hm | ⟨hm, -, rfl⟩⟩ := h
  · obtain ⟨c, -, fault, -, he⟩ := leadings_eq_error (Stages.map_eq_error_iff.mp hm)
    exact .inl ⟨⟨fault, he⟩, (isMixed_eq_error_iff hd).mp ⟨e, hm⟩⟩
  · refine .inr ⟨rfl, fun c hc hmissing => ?_⟩
    obtain ⟨e, he⟩ := (isMixed_eq_error_iff hd).mpr ⟨c, hc, hmissing⟩
    cases hm.symm.trans he

/-- A closing that fails has left the state as it was. -/
theorem spoils_of_run_closeBlock_eq_error (h : (closeBlock d watched stop).run s = .error e t) :
    t = s ∧ ∃ start, s.context.state = .inside ∧ s.context.start = some start ∧
      s.Spoils d watched start e := by
  rcases closeBlock_cases d watched stop s with
    ⟨-, hrun⟩ | ⟨start, hstate, hstart, ⟨mixed, -, -, hrun⟩ | ⟨fault, hspoils, hrun⟩⟩
  · cases hrun.symm.trans h
  · cases hrun.symm.trans h
  · obtain ⟨rfl, rfl⟩ := EStateM.Result.error.inj (hrun.symm.trans h)
    exact ⟨rfl, start, hstate, hstart, hspoils⟩

variable (d s) in
/-- The state `t` is `s` after its open block, which starts at line `start`, has been closed at line
`stop`. -/
structure IsClosed (start stop : Int) (t : Scan) : Prop where
  context : t.context = {}
  regions : t.regions = s.regions ++
    [⟨start, stop, s.context.column, shallowest s.context.candidates⟩]
  /-- There is one warning if a space and a tab stand in front of the candidates, and else none. -/
  warnings : HasBothInFront d s.context.candidates ∧ t.warnings = s.warnings ++ [⟨start⟩] ∨
    ¬HasBothInFront d s.context.candidates ∧ t.warnings = s.warnings

theorem isClosed_of_isMixed (h : isMixed d s.context.candidates = .ok mixed) :
    s.IsClosed d start stop (s.closed start stop mixed) where
  context := rfl
  regions := by rw [closed, topLevel_eq_shallowest]
  warnings := by
    have hmixed := isMixed_eq_ok h
    cases mixed with
    | true => exact .inl ⟨hmixed.mp rfl, rfl⟩
    | false => exact .inr ⟨fun hboth => Bool.false_ne_true (hmixed.mpr hboth), rfl⟩

/-- A closing under watch that succeeds closes the open block, or changes nothing without one. -/
theorem isClosed_of_run_closeBlock_eq_ok (h : (closeBlock d true stop).run s = .ok () t) :
    (s.context.state ≠ .inside ∨ s.context.start = none) ∧ t = s ∨
      ∃ start, s.context.state = .inside ∧ s.context.start = some start ∧
        s.IsClosed d start stop t := by
  rcases close_cases (close_of_run h) with hout | ⟨start, mixed, hstate, hstart, hm, rfl⟩
  · exact .inl hout
  · exact .inr ⟨start, hstate, hstart, isClosed_of_isMixed hm⟩

/-- As long as its lines can be counted, closing a block of a document under watch is all or
nothing, whatever the state and the numbers in it. It fails exactly when a block with a start is
open and a candidate is missing, or a space and a tab stand in front of the candidates and the
number in the warning is too long. Then context, regions and warnings are as before, and the fault
is one of an index if a candidate is missing. Else closing changes nothing if no block is open, and
closes the open block with one region and at most one warning. -/
theorem closeBlock_atomic (hd : d.lineCount ≤ Document.indexLimit) (s : Scan) (stop : Int) :
    ((∃ e t, (closeBlock d true stop).run s = .error e t) ↔
        s.context.state = .inside ∧ ∃ start, s.context.start = some start ∧
          ((∃ c ∈ s.context.candidates, c.IsMissing d) ∨ HasBothInFront d s.context.candidates ∧
            Text.Numeral.maxDigits < (Nat.toDigits 10 (start + 1).natAbs).length)) ∧
      (∀ e t, (closeBlock d true stop).run s = .error e t → t = s ∧
        ((∃ fault, e = .index fault) ∧ (∃ c ∈ s.context.candidates, c.IsMissing d) ∨
          e = .tooManyDigits ∧ ∀ c ∈ s.context.candidates, ¬c.IsMissing d)) ∧
      ∀ t, (closeBlock d true stop).run s = .ok () t →
        (s.context.state ≠ .inside ∨ s.context.start = none) ∧ t = s ∨
          ∃ start, s.context.state = .inside ∧ s.context.start = some start ∧
            s.IsClosed d start stop t := by
  refine ⟨⟨?_, ?_⟩, ?_, fun t => isClosed_of_run_closeBlock_eq_ok⟩
  · rintro ⟨e, t, h⟩
    obtain ⟨-, start, hstate, hstart, hspoils⟩ := spoils_of_run_closeBlock_eq_error h
    exact ⟨hstate, start, hstart, (exists_spoils_iff hd).mp ⟨e, hspoils⟩⟩
  · rintro ⟨hstate, start, hstart, hcause⟩
    obtain ⟨e, hspoils⟩ := (exists_spoils_iff hd).mpr hcause
    exact ⟨e, s, run_closeBlock_of_spoils hstate hstart hspoils⟩
  · intro e t h
    obtain ⟨hsame, start, -, -, hspoils⟩ := spoils_of_run_closeBlock_eq_error h
    exact ⟨hsame, hspoils.cases hd⟩

/-- Two lines, one indented with a tab and one with spaces. -/
def tabThenSpaces : Document := ⟨[['\t', 'a', ':'], [' ', ' ', 'b', ':']]⟩

/-- A state with a block that is open, and with a region and a warning from before. -/
def pending (cs : List Candidate) : Scan :=
  { context := ⟨.inside, some 7, -1, cs⟩, regions := [⟨0, 5, 2, []⟩], warnings := [⟨0⟩] }

/-- A candidate one line before the first, and candidates that are looked up from the end of the
document, beyond the end of a line and from the end of a line. -/
theorem closeBlock_atomic_tabThenSpaces :
    tabThenSpaces.lineCount ≤ Document.indexLimit ∧
      (∃ fault, (closeBlock tabThenSpaces true 3).run (pending [⟨0, 1⟩, ⟨-3, 2⟩]) =
        .error (.index fault) (pending [⟨0, 1⟩, ⟨-3, 2⟩])) ∧
      ∃ t, (closeBlock tabThenSpaces true 3).run (pending [⟨0, 90⟩, ⟨-1, -3⟩, ⟨1, -3⟩]) =
          .ok () t ∧
        t = { regions := [⟨0, 5, 2, []⟩, ⟨7, 3, -1, [-1, 1]⟩], warnings := [⟨0⟩, ⟨7⟩] } ∧
        (pending [⟨0, 90⟩, ⟨-1, -3⟩, ⟨1, -3⟩]).IsClosed tabThenSpaces 7 3 t := by
  have hd : tabThenSpaces.lineCount ≤ Document.indexLimit := by decide
  refine ⟨hd, ?_, ?_⟩
  · have hmem : (⟨-3, 2⟩ : Candidate) ∈ (pending [⟨0, 1⟩, ⟨-3, 2⟩]).context.candidates := by
      simp [pending]
    have hmissing : (⟨-3, 2⟩ : Candidate).IsMissing tabThenSpaces := .inl (by decide)
    obtain ⟨hfails, hkept, -⟩ := closeBlock_atomic hd (pending [⟨0, 1⟩, ⟨-3, 2⟩]) 3
    obtain ⟨e, t, hrun⟩ := hfails.mpr ⟨rfl, 7, rfl, .inl ⟨_, hmem, hmissing⟩⟩
    obtain ⟨rfl, ⟨⟨fault, rfl⟩, -⟩ | ⟨-, hnone⟩⟩ := hkept e t hrun
    · exact ⟨fault, hrun⟩
    · exact absurd hmissing (hnone _ hmem)
  · have hrun : (closeBlock tabThenSpaces true 3).run (pending [⟨0, 90⟩, ⟨-1, -3⟩, ⟨1, -3⟩]) =
        .ok () ⟨{}, [⟨0, 5, 2, []⟩, ⟨7, 3, -1, [-1, 1]⟩], [⟨0⟩, ⟨7⟩]⟩ := rfl
    obtain ⟨-, -, hclosed⟩ := closeBlock_atomic hd (pending [⟨0, 90⟩, ⟨-1, -3⟩, ⟨1, -3⟩]) 3
    rcases hclosed _ hrun with ⟨hout, -⟩ | ⟨start, -, hstart, ht⟩
    · simp [pending] at hout
    · obtain rfl : 7 = start := Option.some.inj hstart
      exact ⟨_, hrun, rfl, ht⟩

/-- The last number before the first one that is too long to be written. -/
def longestLine : Int := (Nat.pow 10 Text.Numeral.maxDigits : Nat) - 1

/-- A block that is open since that line. -/
def longestPending : Scan := { context := ⟨.inside, some longestLine, 0, [⟨0, 1⟩, ⟨1, 2⟩]⟩ }

theorem canWrite_longestLine_succ : Text.Numeral.canWrite (longestLine + 1) = false := by
  rw [longestLine, Int.sub_add_cancel]
  exact Text.Numeral.canWrite_pow (Nat.le_refl _)

/-- The warning counts lines from one, so that closing fails although no candidate is missing. -/
theorem closeBlock_longestPending :
    (closeBlock tabThenSpaces true 3).run longestPending =
        .error .tooManyDigits longestPending ∧
      ¬((∃ e t, (closeBlock tabThenSpaces true 3).run longestPending = .error e t) ↔
        longestPending.context.state = .inside ∧ longestPending.context.start ≠ none ∧
          ∃ c ∈ longestPending.context.candidates, c.IsMissing tabThenSpaces) := by
  have hspoils : longestPending.Spoils tabThenSpaces true longestLine .tooManyDigits :=
    ⟨rfl, .inr ⟨rfl, canWrite_longestLine_succ, rfl⟩⟩
  have hrun : (closeBlock tabThenSpaces true 3).run longestPending =
      .error .tooManyDigits longestPending := run_closeBlock_of_spoils rfl rfl hspoils
  refine ⟨hrun, fun hfails => ?_⟩
  obtain ⟨-, -, c, hc, hmissing⟩ := hfails.mp ⟨_, _, hrun⟩
  rcases hspoils.cases (by decide) with ⟨⟨fault, hfault⟩, -⟩ | ⟨-, hnone⟩
  · cases hfault
  · exact hnone c hc hmissing

end Scan

end Foldline
