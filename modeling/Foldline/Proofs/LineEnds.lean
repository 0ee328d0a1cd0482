import Foldline.Document
import Mathlib.Data.List.Chain
import Mathlib.Data.List.Induction

/-! # Taking a text apart and joining its lines

Lines with their ends, joined, give a text, and cutting that text gives the lines back. The one
exception is a CR before an empty line that ends in LF: with nothing between them the two read as
one CRLF. Every text comes from such lines and a last line without an end, so what cutting does to
joined lines is what it does to every text. -/

namespace Foldline

/-- What ends a line. -/
inductive LineEnd where
  | lf
  | crlf
  | cr
  deriving DecidableEq, Repr

def LineEnd.chars : LineEnd → List Char
  | .lf => ['\n']
  | .crlf => ['\r', '\n']
  | .cr => ['\r']

/-- What follows a line end is no part of it: no LF comes after a CR. -/
def LineEnd.IsWhole (e : LineEnd) (rest : List Char) : Prop := e = .cr → rest.head? ≠ some '\n'

/-- No character of a line end stands in the line. -/
def Line.IsPlain (line : Line) : Prop := '\r' ∉ line ∧ '\n' ∉ line

instance (line : Line) : Decidable line.IsPlain :=
  inferInstanceAs (Decidable ('\r' ∉ line ∧ '\n' ∉ line))

/-- A line and what ends it. -/
structure EndedLine where
  line : Line
  stop : LineEnd
  isPlain : line.IsPlain

namespace EndedLine

def text (r : EndedLine) : List Char := r.line ++ r.stop.chars

/-- The CR of one line and the LF of the next, which is empty, read as one CRLF. -/
def Merges (r s : EndedLine) : Prop := r.stop = .cr ∧ s.line = [] ∧ s.stop = .lf

instance (r s : EndedLine) : Decidable (r.Merges s) :=
  inferInstanceAs (Decidable (r.stop = .cr ∧ s.line = [] ∧ s.stop = .lf))

end EndedLine

/-- Lines of which no two merge. -/
def Apart (rows : List EndedLine) : Prop := rows.IsChain fun r s => ¬ r.Merges s

instance (rows : List EndedLine) : Decidable (Apart rows) :=
  inferInstanceAs (Decidable (rows.IsChain fun r s => ¬ r.Merges s))

/-- The text of lines with their ends. -/
def joinedText (rows : List EndedLine) : List Char := rows.flatMap EndedLine.text

/-- The last line of a text, which no line end follows; an empty one is none. -/
def openLine (tail : Line) : List Line := if tail = [] then [] else [tail]

variable {rows : List EndedLine} {r s : EndedLine} {line tail : Line} {text : List Char}

theorem Line.isPlain_nil : Line.IsPlain [] := by decide

theorem Line.isPlain_cons {c : Char} :
    Line.IsPlain (c :: line) ↔ (c ≠ '\r' ∧ c ≠ '\n') ∧ line.IsPlain := by
  simp only [Line.IsPlain, List.mem_cons, not_or]
  tauto

theorem Line.IsPlain.head?_ne (h : line.IsPlain) : line.head? ≠ some '\n' :=
  fun hhead => h.2 (List.mem_of_head? hhead)

@[simp] theorem joinedText_nil : joinedText [] = [] := rfl

theorem joinedText_cons (r : EndedLine) (rows : List EndedLine) :
    joinedText (r :: rows) = r.line ++ (r.stop.chars ++ joinedText rows) := by
  simp [joinedText, EndedLine.text]

/-- The text after a line end goes on with LF only if the next line is empty and ends in LF. -/
theorem head?_joinedText (htail : tail.IsPlain) :
    (joinedText rows ++ tail).head? = some '\n' ↔
      ∃ s ∈ rows.head?, s.line = [] ∧ s.stop = .lf := by
  cases rows with
  | nil => simpa using htail.head?_ne
  | cons s rows =>
      rw [joinedText_cons]
      cases hline : s.line with
      | nil => cases hstop : s.stop <;> simp [LineEnd.chars, hline, hstop]
      | cons c cs =>
          have hc : c ≠ '\n' := fun h => s.isPlain.2 (by simp [hline, h])
          simp [hc, hline]

/-- A text is empty, or it starts with a line end, or with a character that belongs to none. -/
@[elab_as_elim] theorem lineEndInduction {motive : List Char → Prop} (nil : motive [])
    (lineEnd : ∀ e rest, LineEnd.IsWhole e rest → motive rest → motive (e.chars ++ rest))
    (cons : ∀ c rest, c ≠ '\r' → c ≠ '\n' → motive rest → motive (c :: rest))
    (text : List Char) : motive text := by
  induction text using Document.unifyLineEnds.induct with
  | case1 => exact nil
  | case2 rest ih => exact lineEnd .crlf rest (by simp [LineEnd.IsWhole]) ih
  | case3 rest hlone ih =>
      refine lineEnd .cr rest (fun _ hhead => ?_) ih
      obtain ⟨after, hafter⟩ := List.head?_eq_some_iff.mp hhead
      exact hlone after hafter
  | case4 c rest _ hr ih =>
      by_cases hn : c = '\n'
      · subst hn
        exact lineEnd .lf rest (by simp [LineEnd.IsWhole]) ih
      · exact cons c rest hr hn ih

theorem apart_cons : Apart (r :: rows) ↔ (∀ s ∈ rows.head?, ¬ r.Merges s) ∧ Apart rows :=
  List.isChain_cons

/-- The end of a line that does not merge with the next one is whole. -/
theorem isWhole_of_not_merges (htail : tail.IsPlain) (h : ∀ s ∈ rows.head?, ¬ r.Merges s) :
    r.stop.IsWhole (joinedText rows ++ tail) := by
  intro hcr hhead
  obtain ⟨s, hs, hempty⟩ := (head?_joinedText htail).mp hhead
  exact h s hs ⟨hcr, hempty⟩

namespace Document

theorem piecesFrom_append_of_isPlain (h : line.IsPlain) (piece : Line) (rest : List Char) :
    piecesFrom piece (line ++ rest) = piecesFrom (line.reverse ++ piece) rest := by
  induction line generalizing piece with
  | nil => rfl
  | cons c cs ih =>
      obtain ⟨⟨hr, hn⟩, hcs⟩ := Line.isPlain_cons.mp h
      have hstep : piecesFrom piece (c :: (cs ++ rest)) = piecesFrom (c :: piece) (cs ++ rest) := by
        rw [piecesFrom] <;> simp_all
      rw [List.cons_append, hstep, ih hcs, List.reverse_cons, List.append_assoc]
      rfl

theorem piecesFrom_of_isPlain (h : line.IsPlain) : piecesFrom [] line = [line] := by
  have hall := piecesFrom_append_of_isPlain h [] []
  simpa [piecesFrom] using hall

/-- A line end closes the current piece. -/
theorem piecesFrom_lineEnd {e : LineEnd} {rest : List Char} (piece : Line) (h : e.IsWhole rest) :
    piecesFrom piece (e.chars ++ rest) = piece.reverse :: piecesFrom [] rest := by
  cases e with
  | lf => rfl
  | crlf => rfl
  | cr =>
      rw [LineEnd.chars, List.singleton_append, piecesFrom]
      rintro after rfl
      exact h rfl rfl

theorem piecesFrom_joinedText_cons (htail : tail.IsPlain) (h : ∀ s ∈ rows.head?, ¬ r.Merges s) :
    piecesFrom [] (joinedText (r :: rows) ++ tail) =
      r.line :: piecesFrom [] (joinedText rows ++ tail) := by
  rw [joinedText_cons, List.append_assoc, List.append_assoc,
    piecesFrom_append_of_isPlain r.isPlain, piecesFrom_lineEnd _ (isWhole_of_not_merges htail h)]
  simp

/-- Two lines that merge give one piece. -/
theorem piecesFrom_joinedText_of_merges (h : r.Merges s) :
    piecesFrom [] (joinedText (r :: s :: rows)) = r.line :: piecesFrom [] (joinedText rows) := by
  obtain ⟨hr, hline, hs⟩ := h
  have htext : joinedText (r :: s :: rows) = r.line ++ (LineEnd.crlf.chars ++ joinedText rows) := by
    simp [joinedText_cons, hr, hline, hs, LineEnd.chars]
  rw [htext, piecesFrom_append_of_isPlain r.isPlain,
    piecesFrom_lineEnd _ (by simp [LineEnd.IsWhole])]
  simp

/-- Lines that keep apart and a last line without an end are cut as they were joined. -/
theorem piecesFrom_joinedText (h : Apart rows) (htail : tail.IsPlain) :
    piecesFrom [] (joinedText rows ++ tail) = rows.map (·.line) ++ [tail] := by
  induction rows with
  | nil => exact piecesFrom_of_isPlain htail
  | cons r rows ih =>
      obtain ⟨hfirst, hrest⟩ := apart_cons.mp h
      rw [piecesFrom_joinedText_cons htail hfirst, ih hrest]
      rfl

theorem dropLastEmpty_concat (pieces : List Line) (tail : Line) :
    dropLastEmpty (pieces ++ [tail]) = pieces ++ openLine tail := by
  by_cases h : tail = [] <;> simp [dropLastEmpty, openLine, h]

theorem ofText_joinedText_append (h : Apart rows) (htail : tail.IsPlain) :
    ofText (joinedText rows ++ tail) = ⟨rows.map (·.line) ++ openLine tail⟩ := by
  rw [ofText, piecesFrom_joinedText h htail, dropLastEmpty_concat]

/-- However lines are joined, cutting gives no more lines than there were, and as many only if they
keep apart. -/
theorem exists_piecesFrom_joinedText (rows : List EndedLine) :
    ∃ lines, piecesFrom [] (joinedText rows) = lines ++ [[]] ∧ lines.length ≤ rows.length ∧
      (lines.length = rows.length → Apart rows) := by
  induction rows using List.twoStepInduction with
  | nil => exact ⟨[], rfl, le_rfl, fun _ => .nil⟩
  | singleton r =>
      have hapart : Apart [r] := .singleton r
      have hcut := piecesFrom_joinedText hapart Line.isPlain_nil
      exact ⟨[r.line], by simpa using hcut, le_rfl, fun _ => hapart⟩
  | cons_cons r s rows ih ihs =>
      by_cases hm : r.Merges s
      · obtain ⟨lines, hcut, hle, -⟩ := ih
        refine ⟨r.line :: lines, ?_, ?_, fun hlength => ?_⟩
        · rw [piecesFrom_joinedText_of_merges hm, hcut, List.cons_append]
        · simp only [List.length_cons]
          omega
        · simp only [List.length_cons] at hlength
          omega
      · have hfirst : ∀ next ∈ (s :: rows).head?, ¬ r.Merges next := by simpa using hm
        obtain ⟨lines, hcut, hle, hapart⟩ := ihs s
        refine ⟨r.line :: lines, ?_, Nat.succ_le_succ hle, fun hlength => ?_⟩
        · have hstep := piecesFrom_joinedText_cons Line.isPlain_nil hfirst
          rw [List.append_nil, List.append_nil] at hstep
          rw [hstep, hcut, List.cons_append]
        · exact apart_cons.mpr ⟨hfirst, hapart (Nat.succ.inj hlength)⟩

/-- Joined lines are given back exactly when they keep apart. -/
theorem ofText_joinedText_iff : ofText (joinedText rows) = ⟨rows.map (·.line)⟩ ↔ Apart rows := by
  constructor
  · intro h
    obtain ⟨lines, hcut, -, hapart⟩ := exists_piecesFrom_joinedText rows
    rw [ofText, hcut, dropLastEmpty_concat] at h
    have hlines : lines = rows.map (·.line) := by simpa [openLine] using h
    exact hapart (by rw [hlines, List.length_map])
  · intro h
    simpa [openLine] using ofText_joinedText_append h Line.isPlain_nil

end Document

/-- Put a character in front of the first line. -/
theorem exists_joinedText_cons {c : Char} (hr : c ≠ '\r') (hn : c ≠ '\n') (h : Apart rows)
    (htail : tail.IsPlain) :
    ∃ rows' tail', Apart rows' ∧ Line.IsPlain tail' ∧
      c :: (joinedText rows ++ tail) = joinedText rows' ++ tail' := by
  cases rows with
  | nil => exact ⟨[], c :: tail, .nil, Line.isPlain_cons.mpr ⟨⟨hr, hn⟩, htail⟩, rfl⟩
  | cons r rows =>
      obtain ⟨hfirst, hrest⟩ := apart_cons.mp h
      have hplain : Line.IsPlain (c :: r.line) := Line.isPlain_cons.mpr ⟨⟨hr, hn⟩, r.isPlain⟩
      refine ⟨⟨c :: r.line, r.stop, hplain⟩ :: rows, tail, ?_, htail, ?_⟩
      -- Only the end of the first line says whether it merges with the next one.
      · exact apart_cons.mpr ⟨hfirst, hrest⟩
      · simp [joinedText_cons]

/-- Put a line end in front of the first line. -/
theorem exists_joinedText_lineEnd {e : LineEnd} (h : Apart rows) (htail : tail.IsPlain)
    (hwhole : e.IsWhole (joinedText rows ++ tail)) :
    ∃ rows' tail', Apart rows' ∧ Line.IsPlain tail' ∧
      e.chars ++ (joinedText rows ++ tail) = joinedText rows' ++ tail' := by
  refine ⟨⟨[], e, Line.isPlain_nil⟩ :: rows, tail, apart_cons.mpr ⟨?_, h⟩, htail, ?_⟩
  · rintro s hs ⟨hcr, hempty⟩
    exact hwhole hcr ((head?_joinedText htail).mpr ⟨s, hs, hempty⟩)
  · simp [joinedText_cons]

/-- Every text is made of lines with their ends, which keep apart, and a last line without one. -/
theorem exists_joinedText (text : List Char) :
    ∃ rows tail, Apart rows ∧ Line.IsPlain tail ∧ text = joinedText rows ++ tail := by
  induction text using lineEndInduction with
  | nil => exact ⟨[], [], .nil, Line.isPlain_nil, rfl⟩
  | lineEnd e rest hwhole ih =>
      obtain ⟨rows, tail, hrows, htail, rfl⟩ := ih
      exact exists_joinedText_lineEnd hrows htail hwhole
  | cons c rest hr hn ih =>
      obtain ⟨rows, tail, hrows, htail, rfl⟩ := ih
      exact exists_joinedText_cons hr hn hrows htail

namespace Document

/-- No line of a text holds a character of a line end. -/
theorem isPlain_of_mem_ofText (h : line ∈ (ofText text).lines) : line.IsPlain := by
  obtain ⟨rows, tail, hrows, htail, rfl⟩ := exists_joinedText text
  rw [ofText_joinedText_append hrows htail] at h
  rcases List.mem_append.mp h with hrow | hopen
  · obtain ⟨r, -, rfl⟩ := List.mem_map.mp hrow
    exact r.isPlain
  · rw [openLine] at hopen
    split at hopen
    · cases hopen
    · exact List.mem_singleton.mp hopen ▸ htail

/-- Plain lines, each with an LF after it, are cut as they were joined. -/
theorem piecesFrom_flatMap_lf {lines : List Line} (h : ∀ line ∈ lines, line.IsPlain) :
    piecesFrom [] (lines.flatMap (· ++ ['\n'])) = lines ++ [[]] := by
  induction lines with
  | nil => rfl
  | cons line lines ih =>
      obtain ⟨hline, hlines⟩ := List.forall_mem_cons.mp h
      rw [List.flatMap_cons, List.append_assoc, piecesFrom_append_of_isPlain hline,
        List.singleton_append, piecesFrom, ih hlines]
      simp

/-- Lines joined with any ends are given back exactly when they keep apart, and then the end of the
last line does not matter unless the line is empty. The lines of every text are plain, and joined
with LF they give the same document again. -/
theorem ofText_joinedText :
    (∀ rows, ofText (joinedText rows) = ⟨rows.map (·.line)⟩ ↔ Apart rows) ∧
    (∀ rows last, Apart (rows ++ [last]) → last.line ≠ [] →
      ofText (joinedText rows ++ last.line) = ⟨(rows ++ [last]).map (·.line)⟩) ∧
    ∀ text, (∀ line ∈ (ofText text).lines, line.IsPlain) ∧
      ofText ((ofText text).lines.flatMap (· ++ ['\n'])) = ofText text := by
  refine ⟨fun rows => ofText_joinedText_iff, fun rows last h hlast => ?_, fun text => ?_⟩
  · have hrows : Apart rows := h.left_of_append
    rw [ofText_joinedText_append hrows last.isPlain, openLine, if_neg hlast, List.map_append,
      List.map_singleton]
  · have hplain : ∀ line ∈ (ofText text).lines, line.IsPlain := fun _ => isPlain_of_mem_ofText
    refine ⟨hplain, ?_⟩
    rw [ofText, piecesFrom_flatMap_lf hplain, dropLastEmpty_concat]
    simp [openLine]

/-- Lines with different ends, two of them empty. -/
def mixedRows : List EndedLine :=
  [⟨['a'], .cr, by decide⟩, ⟨[], .crlf, by decide⟩, ⟨[], .lf, by decide⟩]

/-- A line with a separator in it that is no line end. -/
def separatorRow : EndedLine := ⟨['b', '\u2028', 'c'], .cr, by decide⟩

theorem ofText_joinedText_mixedRows :
    Apart (mixedRows ++ [separatorRow]) ∧ separatorRow.line ≠ [] ∧
      ofText "a\r\r\n\nb\u2028c\r".toList = ⟨["a", "", "", "b\u2028c"].map String.toList⟩ ∧
      ofText "a\r\r\n\nb\u2028c".toList = ⟨["a", "", "", "b\u2028c"].map String.toList⟩ := by
  have hapart : Apart (mixedRows ++ [separatorRow]) := by decide
  have hline : separatorRow.line ≠ [] := by decide
  obtain ⟨hended, hopen, -⟩ := ofText_joinedText
  exact ⟨hapart, hline, (hended _).mpr hapart, hopen _ _ hapart hline⟩

end Document

end Foldline
