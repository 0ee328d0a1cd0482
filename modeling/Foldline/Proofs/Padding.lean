import Foldline.Proofs.Normalization
import Foldline.Proofs.Redraw

/-! # Lines with padding

A line is padded when indentation is put in front of it and blanks behind it. Its text without the
blanks at both ends stays the same, and no token appears in it or is lost, as long as the token
neither starts with indentation nor ends with a blank. So a padded line is of the same kind as
before. All lines of a document padded in front with the same indentation draw the document anew. -/

namespace Foldline

namespace Text

variable {part front s back : List Char}

/-- A part that starts with none of the characters in front of a text is found behind them or not at
all. -/
theorem infix_front_iff (h : ∀ c ∈ part.head?, c ∉ front) :
    part <:+: front ++ s ↔ part <:+: s := by
  induction front with
  | nil => rfl
  | cons a front ih =>
      have hrest : ∀ c ∈ part.head?, c ∉ front :=
        fun c hc hmem => h c hc (List.mem_cons_of_mem a hmem)
      rw [List.cons_append, List.infix_cons_iff, ih hrest, or_iff_right_iff_imp]
      intro hpart
      rcases List.prefix_cons_iff.mp hpart with rfl | ⟨tail, rfl, -⟩
      · exact List.nil_infix
      · exact absurd List.mem_cons_self (h a rfl)

/-- A part that ends with none of the characters behind a text is found before them or not at
all. -/
theorem infix_back_iff (h : ∀ c ∈ part.getLast?, c ∉ back) :
    part <:+: s ++ back ↔ part <:+: s := by
  have hreverse : ∀ c ∈ part.reverse.head?, c ∉ back.reverse := by
    intro c hc
    rw [List.head?_reverse] at hc
    rw [List.mem_reverse]
    exact h c hc
  rw [← List.reverse_infix, List.reverse_append, infix_front_iff hreverse, List.reverse_infix]

/-- Blanks at both ends make no difference to a text that is trimmed. -/
theorem trim_pad (hfront : ∀ c ∈ front, isBlank c = true) (hback : ∀ c ∈ back, isBlank c = true) :
    trim (front ++ s ++ back) = trim s :=
  trimBy_pad hfront hback

end Text

namespace Line

variable {config : Config} {line front back : Line}

theorem isBlank_of_isIndent {c : Char} (h : isIndent c = true) : Text.isBlank c = true := by
  rcases Bool.or_eq_true_iff.mp h with hspace | htab
  · rw [eq_of_beq hspace]
    decide
  · rw [eq_of_beq htab]
    decide

/-- Of a line that is not blank, padding moves the column by the indentation in front. -/
theorem column_pad (hfront : ∀ c ∈ front, isIndent c = true) (back : Line)
    (hline : line.isBlank = false) :
    (front ++ line ++ back).column = line.column + front.length := by
  have hcontent : (line.takeWhile isIndent).length ≠ line.length := by
    intro hlength
    have hwhole : line.takeWhile isIndent = line := (List.takeWhile_prefix _).eq_of_length hlength
    rw [← Bool.not_eq_true, isBlank_eq_true_iff] at hline
    apply hline
    intro c hc
    rw [← hwhole] at hc
    exact isBlank_of_isIndent (List.mem_takeWhile_imp hc)
  rw [column, List.append_assoc, List.takeWhile_append_of_pos hfront, List.takeWhile_append,
    if_neg hcontent, List.length_append, Nat.add_comm, column]

theorem closesBody_pad (hfront : ∀ c ∈ front, Text.isBlank c = true)
    (hback : ∀ c ∈ back, Text.isBlank c = true) :
    (front ++ line ++ back).closesBody = line.closesBody := by
  have hcloser : Text.isBlank bodyCloser = false := by decide
  have hout : ∀ {pad : Line}, (∀ c ∈ pad, Text.isBlank c = true) → bodyCloser ∉ pad := by
    intro pad hpad hmem
    rw [hpad bodyCloser hmem] at hcloser
    cases hcloser
  rw [closesBody, closesBody, Bool.eq_iff_iff, List.contains_iff_mem, List.contains_iff_mem,
    List.mem_append, List.mem_append, or_iff_left (hout hback), or_iff_right (hout hfront)]

/-- A token that neither starts with indentation nor ends with a blank. -/
structure IsSnug (token : List Char) : Prop where
  head : ∀ c ∈ token.head?, isIndent c = false
  last : ∀ c ∈ token.getLast?, Text.isBlank c = false

/-- Padding neither adds a snug token to a line nor takes one away. -/
theorem IsSnug.occursIn_pad {token : List Char} (h : IsSnug token)
    (hfront : ∀ c ∈ front, isIndent c = true) (hback : ∀ c ∈ back, Text.isBlank c = true) :
    Text.occursIn token (front ++ line ++ back) = Text.occursIn token line := by
  have hhead : ∀ c ∈ token.head?, c ∉ front := by
    intro c hc hmem
    exact absurd ((h.head c hc).symm.trans (hfront c hmem)) Bool.false_ne_true
  have hlast : ∀ c ∈ token.getLast?, c ∉ back := by
    intro c hc hmem
    exact absurd ((h.last c hc).symm.trans (hback c hmem)) Bool.false_ne_true
  rw [Bool.eq_iff_iff, Text.occursIn_eq_true_iff, Text.occursIn_eq_true_iff,
    Text.infix_back_iff hlast, Text.infix_front_iff hhead]

/-- With snug texts as tokens, a padded line holds a marker when the line does. -/
theorem isMarker_pad {tokens : List String} (hm : config.markerTokens = .texts tokens)
    (hsnug : ∀ token ∈ tokens, IsSnug token.toList) (hfront : ∀ c ∈ front, isIndent c = true)
    (hback : ∀ c ∈ back, Text.isBlank c = true) :
    isMarker config (front ++ line ++ back) = isMarker config line := by
  rw [isMarker_of_texts hm, isMarker_of_texts hm]
  congr 1
  rw [Bool.eq_iff_iff, List.any_eq_true, List.any_eq_true]
  apply exists_congr
  intro token
  apply and_congr_right
  intro htoken
  rw [(hsnug token htoken).occursIn_pad hfront hback]

/-- With snug texts as tokens, a padded line is of the kind of the line. -/
theorem kind_pad {tokens : List String} (hm : config.markerTokens = .texts tokens)
    (hsnug : ∀ token ∈ tokens, IsSnug token.toList) (hfront : ∀ c ∈ front, isIndent c = true)
    (hback : ∀ c ∈ back, Text.isBlank c = true) :
    kind config (front ++ line ++ back) = kind config line := by
  have hblanks : ∀ c ∈ front, Text.isBlank c = true := fun c hc => isBlank_of_isIndent (hfront c hc)
  have htrim : Text.trim (front ++ line ++ back) = Text.trim line := Text.trim_pad hblanks hback
  -- All tests but the one for marker tokens see the trimmed line only.
  have hblank : isBlank (front ++ line ++ back) = isBlank line := by rw [isBlank, isBlank, htrim]
  have hterminator : isTerminator config (front ++ line ++ back) = isTerminator config line := by
    rw [isTerminator, isTerminator, htrim]
  have hkey : isKey config (front ++ line ++ back) = isKey config line := by
    rw [isKey, isKey, htrim]
  rw [kind_eq, kind_eq, hblank, isMarker_pad hm hsnug hfront hback, hterminator, hkey,
    closesBody_pad hblanks hback]

end Line

namespace Document

variable {config : Config} {d : Document} {watched : Bool}

/-- A document with `front` put in front of every line and `back i` behind line `i`. -/
def pad (d : Document) (front : Line) (back : Nat → Line) : Document :=
  ⟨d.lines.mapIdx fun i line => front ++ line ++ back i⟩

theorem forall₂_pad {front : Line} {back : Nat → Line} {related : Line → Line → Prop}
    (h : ∀ i line, related line (front ++ line ++ back i)) :
    List.Forall₂ related d.lines (d.pad front back).lines := by
  obtain ⟨lines⟩ := d
  unfold pad
  induction lines generalizing back with
  | nil => exact .nil
  | cons line rest ih =>
      rw [List.mapIdx_cons]
      exact .cons (h 0 line) (ih fun i => h (i + 1))

/-- With marker tokens that neither start with indentation nor end with a blank, the same
indentation in front of all lines and any blanks behind them leave the marker lines as they are. The
regions of a survey stay as they are too, except that their columns grow by the width of the
indentation. -/
theorem locators_pad {tokens : List String} {front : Line} {back : Nat → Line}
    (hm : config.markerTokens = .texts tokens)
    (hsnug : ∀ token ∈ tokens, Line.IsSnug token.toList)
    (hfront : ∀ c ∈ front, Line.isIndent c = true)
    (hback : ∀ i, ∀ c ∈ back i, Text.isBlank c = true)
    (hw : watched = true → d.lineCount ≤ indexLimit) :
    (d.pad front back).markerLines config = d.markerLines config ∧
      ((d.pad front back).survey config watched).regions =
        (d.survey config watched).regions.map fun rs => rs.map fun r =>
          { r with column := r.column + front.length } := by
  have hredraws : Scan.Redraws config id front.length 0 d.lines 0 (d.pad front back).lines := by
    apply Scan.Redraws.of_forall₂ fun k _ => rfl
    apply forall₂_pad
    intro i line
    exact ⟨Line.kind_pad hm hsnug hfront (hback i), Line.column_pad hfront (back i)⟩
  have hcount : (d.pad front back).lineCount = d.lineCount := List.length_mapIdx
  constructor
  · have hmarkers : List.Forall₂ (fun line line' => Line.isMarker config line =
        Line.isMarker config line') d.lines (d.pad front back).lines := by
      apply forall₂_pad
      intro i line
      exact (Line.isMarker_pad hm hsnug hfront (hback i)).symm
    rw [markerLines, markerLines, ← markerLinesFrom_congr hmarkers]
  · rw [survey_redraw hredraws hw (hcount.symm ▸ hw), Region.redraw_id]

theorem isSnug_defaultMarkers : ∀ token ∈ Config.defaultMarkers, Line.IsSnug token.toList := by
  intro token htoken
  rcases List.mem_pair.mp htoken with rfl | rfl <;> constructor
  all_goals
    intro c hc
    cases hc
    decide

/-- A wide space behind every second line, and nothing behind the others. -/
def wideTrail (i : Nat) : Line := if i % 2 = 0 then ['\u3000'] else []

theorem locators_pad_twoBlocks :
    (twoBlocks.pad ['\t', ' '] wideTrail).markerLines {} = .ok [0, 7] ∧
      (twoBlocks.survey {} true).regions = .ok [⟨0, 6, 0, [1, 5]⟩, ⟨7, 10, 0, [9]⟩] ∧
      ((twoBlocks.pad ['\t', ' '] wideTrail).survey {} true).regions =
        .ok [⟨0, 6, 2, [1, 5]⟩, ⟨7, 10, 2, [9]⟩] := by
  have hm : ({} : Config).markerTokens = .texts Config.defaultMarkers := rfl
  have hfront : ∀ c ∈ ['\t', ' '], Line.isIndent c = true := List.all_eq_true.mp (by decide)
  have hback : ∀ i, ∀ c ∈ wideTrail i, Text.isBlank c = true := by
    intro i
    apply List.all_eq_true.mp
    unfold wideTrail
    split_ifs <;> decide
  have hw : true = true → twoBlocks.lineCount ≤ indexLimit := fun _ => by decide
  have hmarkers : twoBlocks.markerLines {} = .ok [0, 7] :=
    Stages.eq_ok_of_toOption (by decide +kernel)
  obtain ⟨hlines, hpadded⟩ := locators_pad hm isSnug_defaultMarkers hfront hback hw
  refine ⟨hlines.trans hmarkers, survey_twoBlocks, hpadded.trans ?_⟩
  rw [survey_twoBlocks]
  rfl

end Document

end Foldline
