import Foldline.Proofs.LineEnds

/-! # Documents from raw lines

A text is cut into raw lines at the places right after its line ends: after each LF, and after each
CR that no LF follows. These places say of any row of pieces whether it is the text in raw lines,
and there is one such row for each text. Taking the line ends off its pieces gives the document of
the text. -/

namespace Foldline

variable {before after text : List Char} {pieces front back : List Line} {line tail : Line}
  {e : LineEnd}

/-- A line end stands right before a place, and the text after the place does not go on with it. -/
def EndsLine (before after : List Char) : Prop :=
  before.getLast? = some '\n' ∨ before.getLast? = some '\r' ∧ after.head? ≠ some '\n'

/-- The pieces are the text cut right after each line end, and nowhere else. No piece is empty, so
that there is none after a line end at the end of the text. -/
structure IsCut (text : List Char) (pieces : List Line) : Prop where
  flatten_eq : pieces.flatten = text
  ne_nil : ∀ piece ∈ pieces, piece ≠ []
  place_iff : ∀ before after, before ≠ [] → after ≠ [] → before ++ after = text →
    ((∃ front back, front ++ back = pieces ∧ front.flatten = before) ↔ EndsLine before after)

/-- Whether a line ends at a place is seen right before and after it. -/
theorem endsLine_append (u : List Char) (h : before ≠ []) :
    EndsLine (u ++ before) after ↔ EndsLine before after := by
  rw [EndsLine, EndsLine, List.getLast?_append_of_ne_nil _ h]

theorem endsLine_chars_iff : EndsLine e.chars after ↔ e.IsWhole after := by
  cases e <;> simp [EndsLine, LineEnd.chars, LineEnd.IsWhole]

namespace IsCut

variable {p q : Line} {ps qs : List Line}

theorem eq_nil_of_flatten (h : ∀ piece ∈ pieces, piece ≠ []) (hnil : pieces.flatten = []) :
    pieces = [] := by
  cases pieces with
  | nil => rfl
  | cons p ps => simp_all

/-- What is left after the first piece is cut by the other ones. -/
theorem rest (h : IsCut text (p :: ps)) : IsCut ps.flatten ps := by
  obtain ⟨htext, hne, hplace⟩ := h
  refine ⟨rfl, fun piece hpiece => hne piece (by simp [hpiece]), fun before after hb ha heq => ?_⟩
  have hwhole : p ++ before ++ after = text := by simp [heq, ← htext]
  rw [← endsLine_append p hb, ← hplace (p ++ before) after (by simp [hb]) ha hwhole]
  constructor
  · rintro ⟨front, back, rfl, rfl⟩
    exact ⟨p :: front, back, rfl, rfl⟩
  · rintro ⟨front, back, hsplit, hfront⟩
    cases front with
    | nil => simp [hb] at hfront
    | cons q front =>
        obtain ⟨rfl, rfl⟩ := List.cons.inj hsplit
        exact ⟨front, back, rfl, List.append_cancel_left hfront⟩

/-- Of two cuts of one text the first piece of one goes no farther than that of the other. -/
theorem isPrefix_first (h : IsCut text (p :: ps)) (h' : IsCut text (q :: qs)) : q <+: p := by
  have hp : p ≠ [] := h.ne_nil p (by simp)
  by_cases hps : ps.flatten = []
  · have htext : p = q ++ qs.flatten := by
      simpa [hps] using h.flatten_eq.trans h'.flatten_eq.symm
    exact ⟨qs.flatten, htext.symm⟩
  · have hend : EndsLine p ps.flatten :=
      (h.place_iff p ps.flatten hp hps h.flatten_eq).mp ⟨[p], ps, rfl, by simp⟩
    obtain ⟨front, back, hsplit, hfront⟩ :=
      (h'.place_iff p ps.flatten hp hps h.flatten_eq).mpr hend
    cases front with
    | nil => exact absurd hfront.symm hp
    | cons r front =>
        obtain ⟨rfl, -⟩ := List.cons.inj hsplit
        exact ⟨front.flatten, hfront⟩

theorem unique (h : IsCut text ps) (h' : IsCut text qs) : ps = qs := by
  induction ps generalizing text qs with
  | nil =>
      have htext : qs.flatten = [] := h'.flatten_eq.trans h.flatten_eq.symm
      exact (eq_nil_of_flatten h'.ne_nil htext).symm
  | cons p ps ih =>
      cases qs with
      | nil =>
          have htext : (p :: ps).flatten = [] := h.flatten_eq.trans h'.flatten_eq.symm
          exact eq_nil_of_flatten h.ne_nil htext
      | cons q qs =>
          obtain rfl : p = q :=
            (isPrefix_first h' h).eq_of_length_le (isPrefix_first h h').length_le
          have hrest : ps.flatten = qs.flatten :=
            List.append_cancel_left (h.flatten_eq.trans h'.flatten_eq.symm)
          rw [ih h.rest (hrest ▸ h'.rest)]

end IsCut

/-- Put a character in front of the first piece. -/
def extendFirst (c : Char) : List Line → List Line
  | [] => [[c]]
  | piece :: pieces => (c :: piece) :: pieces

/-- Cut a text right after each line end. -/
def cutLines : List Char → List Line
  | [] => []
  | '\r' :: '\n' :: rest => ['\r', '\n'] :: cutLines rest
  | '\r' :: rest => ['\r'] :: cutLines rest
  | '\n' :: rest => ['\n'] :: cutLines rest
  | c :: rest => extendFirst c (cutLines rest)

theorem cutLines_lineEnd {rest : List Char} (h : e.IsWhole rest) :
    cutLines (e.chars ++ rest) = e.chars :: cutLines rest := by
  cases e with
  | lf => rfl
  | crlf => rfl
  | cr =>
      rw [LineEnd.chars, List.singleton_append, cutLines]
      rintro after rfl
      exact h rfl rfl

theorem cutLines_cons {c : Char} (hr : c ≠ '\r') (hn : c ≠ '\n') (rest : List Char) :
    cutLines (c :: rest) = extendFirst c (cutLines rest) := by
  rw [cutLines] <;> simp_all

theorem flatten_extendFirst (c : Char) (pieces : List Line) :
    (extendFirst c pieces).flatten = c :: pieces.flatten := by
  cases pieces <;> rfl

theorem flatten_cutLines (text : List Char) : (cutLines text).flatten = text := by
  induction text using lineEndInduction with
  | nil => rfl
  | lineEnd e rest hwhole ih => rw [cutLines_lineEnd hwhole, List.flatten_cons, ih]
  | cons c rest hr hn ih => rw [cutLines_cons hr hn, flatten_extendFirst, ih]

theorem ne_nil_of_mem_cutLines (text : List Char) : ∀ piece ∈ cutLines text, piece ≠ [] := by
  induction text using lineEndInduction with
  | nil => simp [cutLines]
  | lineEnd e rest hwhole ih =>
      rw [cutLines_lineEnd hwhole, List.forall_mem_cons]
      exact ⟨by cases e <;> simp [LineEnd.chars], ih⟩
  | cons c rest hr hn ih =>
      rw [cutLines_cons hr hn]
      cases hcut : cutLines rest with
      | nil => simp [extendFirst]
      | cons piece pieces =>
          rw [hcut] at ih
          rw [extendFirst, List.forall_mem_cons]
          exact ⟨by simp, fun p hp => ih p (by simp [hp])⟩

/-- Cutting goes on after a line end as if the text began there. -/
theorem cutLines_append (h : EndsLine before after) :
    cutLines (before ++ after) = cutLines before ++ cutLines after := by
  induction before using lineEndInduction with
  | nil => simp [EndsLine] at h
  | lineEnd e rest hwhole ih =>
      by_cases hrest : rest = []
      · subst hrest
        rw [List.append_nil] at h ⊢
        have hempty : cutLines e.chars = [e.chars] := by
          have hcut := cutLines_lineEnd hwhole
          rwa [List.append_nil] at hcut
        rw [cutLines_lineEnd (endsLine_chars_iff.mp h), hempty]
        rfl
      · have hwhole' : e.IsWhole (rest ++ after) := by
          intro hcr
          rw [List.head?_append_of_ne_nil _ hrest]
          exact hwhole hcr
        rw [List.append_assoc, cutLines_lineEnd hwhole', cutLines_lineEnd hwhole,
          ih ((endsLine_append e.chars hrest).mp h)]
        rfl
  | cons c rest hr hn ih =>
      by_cases hrest : rest = []
      · simp [EndsLine, hrest, hr, hn] at h
      · have hends : EndsLine rest after := (endsLine_append [c] hrest).mp h
        rw [List.cons_append, cutLines_cons hr hn, cutLines_cons hr hn, ih hends]
        cases hcut : cutLines rest with
        | nil => exact absurd (by rw [← flatten_cutLines rest, hcut]; rfl) hrest
        | cons piece pieces => rfl

/-- A text is cut right after line ends only. -/
theorem endsLine_of_cutLines (h : front ++ back = cutLines text) (hfront : front ≠ [])
    (hback : back ≠ []) : EndsLine front.flatten back.flatten := by
  induction text using lineEndInduction generalizing front with
  | nil => simp_all [cutLines]
  | lineEnd e rest hwhole ih =>
      obtain ⟨p, front, rfl⟩ := List.exists_cons_of_ne_nil hfront
      rw [cutLines_lineEnd hwhole] at h
      obtain ⟨rfl, hrest⟩ := List.cons.inj h
      by_cases hnil : front = []
      · subst hnil
        have hback : back.flatten = rest := by
          rw [← flatten_cutLines rest, ← hrest]
          rfl
        simpa [hback] using endsLine_chars_iff.mpr hwhole
      · have hne : front.flatten ≠ [] := by
          intro hflat
          refine hnil (IsCut.eq_nil_of_flatten (fun piece hpiece => ?_) hflat)
          exact ne_nil_of_mem_cutLines rest piece (hrest ▸ List.mem_append_left _ hpiece)
        exact (endsLine_append e.chars hne).mpr (ih hrest hnil)
  | cons c rest hr hn ih =>
      obtain ⟨p, front, rfl⟩ := List.exists_cons_of_ne_nil hfront
      rw [cutLines_cons hr hn] at h
      cases hcut : cutLines rest with
      | nil => simp_all [extendFirst]
      | cons piece pieces =>
          rw [hcut] at h
          obtain ⟨rfl, hrest⟩ := List.cons.inj h
          have hpiece : piece ≠ [] := ne_nil_of_mem_cutLines rest piece (by simp [hcut])
          have hends : EndsLine (piece :: front).flatten back.flatten := by
            refine ih ?_ (by simp)
            rw [hcut, ← hrest]
            rfl
          exact (endsLine_append [c] (by simp [hpiece])).mpr hends

theorem isCut_cutLines (text : List Char) : IsCut text (cutLines text) := by
  refine ⟨flatten_cutLines text, ne_nil_of_mem_cutLines text, ?_⟩
  rintro before after hbefore hafter rfl
  constructor
  · rintro ⟨front, back, hsplit, rfl⟩
    have hback : back.flatten = after := by
      have hflat := flatten_cutLines (front.flatten ++ after)
      rw [← hsplit, List.flatten_append] at hflat
      exact List.append_cancel_left hflat
    rw [← hback]
    refine endsLine_of_cutLines hsplit ?_ ?_
    · rintro rfl
      exact hbefore rfl
    · rintro rfl
      exact hafter hback.symm
  · intro h
    exact ⟨cutLines before, cutLines after, (cutLines_append h).symm, flatten_cutLines before⟩

namespace Text

theorem dropSuffix_append (s tail : List Char) : dropSuffix tail (s ++ tail) = s := by
  simp [dropSuffix]

theorem dropSuffix_of_notMem {c : Char} {s : List Char} (h : c ∉ s) : dropSuffix [c] s = s := by
  have hsuffix : ¬ [c] <:+ s := fun hs => h (hs.subset (List.mem_singleton_self c))
  simp [dropSuffix, hsuffix]

end Text

/-- A piece without a line end in it stays as it is, except that it is no piece if it is empty. -/
theorem cutLines_of_isPlain (h : tail.IsPlain) : cutLines tail = openLine tail := by
  induction tail with
  | nil => rfl
  | cons c cs ih =>
      obtain ⟨⟨hr, hn⟩, hcs⟩ := Line.isPlain_cons.mp h
      rw [cutLines_cons hr hn, ih hcs]
      cases cs <;> rfl

/-- A line is cut off after its end. -/
theorem cutLines_line {rest : List Char} (h : line.IsPlain) (hwhole : e.IsWhole rest) :
    cutLines (line ++ (e.chars ++ rest)) = (line ++ e.chars) :: cutLines rest := by
  induction line with
  | nil => exact cutLines_lineEnd hwhole
  | cons c cs ih =>
      obtain ⟨⟨hr, hn⟩, hcs⟩ := Line.isPlain_cons.mp h
      rw [List.cons_append, cutLines_cons hr hn, ih hcs]
      rfl

theorem cutLines_joinedText {rows : List EndedLine} (h : Apart rows) (htail : tail.IsPlain) :
    cutLines (joinedText rows ++ tail) = rows.map EndedLine.text ++ openLine tail := by
  induction rows with
  | nil => exact cutLines_of_isPlain htail
  | cons r rows ih =>
      obtain ⟨hfirst, hrest⟩ := apart_cons.mp h
      rw [joinedText_cons, List.append_assoc, List.append_assoc,
        cutLines_line r.isPlain (isWhole_of_not_merges htail hfirst), ih hrest]
      rfl

namespace Document

theorem dropLineEnd_of_isPlain (h : line.IsPlain) : dropLineEnd line = line := by
  rw [dropLineEnd, Text.dropSuffix_of_notMem h.2, Text.dropSuffix_of_notMem h.1]

/-- Taking the line end off never takes a character of the line along. -/
theorem dropLineEnd_text (r : EndedLine) : dropLineEnd r.text = r.line := by
  obtain ⟨line, stop, hplain⟩ := r
  cases stop with
  | lf =>
      show dropLineEnd (line ++ ['\n']) = line
      rw [dropLineEnd, Text.dropSuffix_append, Text.dropSuffix_of_notMem hplain.1]
  | crlf =>
      have hsplit : line ++ ['\r', '\n'] = (line ++ ['\r']) ++ ['\n'] := by simp
      show dropLineEnd (line ++ ['\r', '\n']) = line
      rw [dropLineEnd, hsplit, Text.dropSuffix_append, Text.dropSuffix_append]
  | cr =>
      have hfeed : '\n' ∉ line ++ ['\r'] := by simpa using hplain.2
      show dropLineEnd (line ++ ['\r']) = line
      rw [dropLineEnd, Text.dropSuffix_of_notMem hfeed, Text.dropSuffix_append]

theorem map_dropLineEnd_openLine (h : tail.IsPlain) :
    (openLine tail).map dropLineEnd = openLine tail := by
  unfold openLine
  split
  · rfl
  · rw [List.map_singleton, dropLineEnd_of_isPlain h]

/-- Every text can be cut right after its line ends in one way, and the pieces as raw lines give the
document of the text. -/
theorem ofRawLines_cutLines (text : List Char) :
    (∀ pieces, IsCut text pieces ↔ pieces = cutLines text) ∧
      ofRawLines (cutLines text) = ofText text := by
  constructor
  · intro pieces
    constructor
    · exact fun h => h.unique (isCut_cutLines text)
    · rintro rfl
      exact isCut_cutLines text
  · obtain ⟨rows, tail, hrows, htail, rfl⟩ := exists_joinedText text
    have hlines : (rows.map EndedLine.text).map dropLineEnd = rows.map (·.line) := by
      rw [List.map_map]
      exact List.map_congr_left fun r _ => dropLineEnd_text r
    rw [ofText_joinedText_append hrows htail, cutLines_joinedText hrows htail, ofRawLines,
      List.map_append, hlines, map_dropLineEnd_openLine htail]

end Document

end Foldline
