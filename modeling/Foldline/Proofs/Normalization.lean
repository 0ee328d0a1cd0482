import Foldline.Proofs.Walk

/-! # Settings before and after normalization

The check of settings looks at their normal form, and a scan reads them as they are. A list of
tokens reads the same in both forms, and so does a bare text of one character. A longer bare text
does not: as it is, it is read character by character or as a text to find others in, and in normal
form as the one token it is. -/

namespace Foldline

/-- A bare text of two or more characters. -/
def Value.IsLongText (v : Value) : Prop := ∃ s : String, v = .text s ∧ 2 ≤ s.length

namespace Config

variable {c : Config} {v : Value}

/-- A bare text that becomes tokens is not empty; if it is not long it is a single character. -/
theorem exists_char_of_text {s : String} (h : (toTuple (.text s)).IsTokens)
    (hlong : ¬ (Value.text s).IsLongText) : ∃ a, s = String.ofList [a] := by
  obtain ⟨tokens, -, hne, heq⟩ := h
  have htoken : s ∈ tokens := by
    have hmap : [Value.text s] = tokens.map .text := Value.tuple.inj heq
    have hmem : Value.text s ∈ tokens.map .text := hmap ▸ List.mem_singleton_self _
    simpa using hmem
  have hshort : s.toList.length ≤ 1 := by
    by_contra hn
    exact hlong ⟨s, rfl, by rw [← String.length_toList]; omega⟩
  match hs : s.toList with
  | [] => exact absurd (String.toList_eq_nil_iff.mp hs) (hne s htoken)
  | [a] => exact ⟨a, by rw [← hs, String.ofList_toList]⟩
  | a :: b :: rest => simp [hs] at hshort

/-- Tokens that are no long text have the same members in normal form. -/
theorem someMemberOf_toTuple (h : ∀ s, v = .text s → (toTuple v).IsTokens)
    (hlong : ¬ v.IsLongText) (test : Value → Except Line.Fault Bool) :
    Line.someMemberOf (toTuple v) test = Line.someMemberOf v test := by
  cases v with
  | text s =>
      obtain ⟨a, rfl⟩ := exists_char_of_text (h s rfl) hlong
      simp [toTuple, Line.someMemberOf, Value.members?]
  | _ => rfl

/-- Tokens that are no long text hold the same texts in normal form, except for the empty text. -/
theorem holdsText?_toTuple (h : (toTuple v).IsTokens) (hlong : ¬ v.IsLongText) {u : List Char}
    (hu : u ≠ []) : (toTuple v).holdsText? u = v.holdsText? u := by
  cases v with
  | text s =>
      obtain ⟨a, rfl⟩ := exists_char_of_text h hlong
      have hiff : String.ofList [a] = String.ofList u ↔ u <:+: [a] := by
        rw [String.ofList_inj, List.infix_cons_iff, List.prefix_cons_iff]
        simp [hu, @eq_comm _ u]
      simp only [toTuple, Value.holdsText?, List.any_cons, List.any_nil, Bool.or_false,
        Value.isText, Option.some.injEq, String.toList_ofList]
      rw [Bool.eq_iff_iff, beq_iff_eq, Text.occursIn_eq_true_iff]
      exact hiff
  | _ => rfl

/-- No tokens are given as a long bare text. -/
structure LacksLongText (c : Config) : Prop where
  markerTokens : ¬ c.markerTokens.IsLongText
  terminatorTokens : ¬ c.terminatorTokens.IsLongText
  terminatorPrefixes : ¬ c.terminatorPrefixes.IsLongText

theorem isMarker_normalize (hs : c.normalize.IsSound) (hlong : ¬ c.markerTokens.IsLongText)
    (line : Line) : Line.isMarker c.normalize line = Line.isMarker c line :=
  someMemberOf_toTuple (fun _ _ => hs.markerTokens) hlong (Line.holdsMarker line)

theorem isTerminator_normalize (hs : c.normalize.IsSound) (hlong : c.LacksLongText) {line : Line}
    (hb : line.isBlank = false) :
    Line.isTerminator c.normalize line = Line.isTerminator c line := by
  have htrimmed : Text.trim line ≠ [] := by simpa [Line.isBlank] using hb
  have htokens : c.normalize.terminatorTokens.holdsText? (Text.trim line) =
      c.terminatorTokens.holdsText? (Text.trim line) :=
    holdsText?_toTuple hs.terminatorTokens hlong.terminatorTokens htrimmed
  have hprefixes : Line.someMemberOf c.normalize.terminatorPrefixes
        (Line.startsWith (Text.trim line)) =
      Line.someMemberOf c.terminatorPrefixes (Line.startsWith (Text.trim line)) := by
    refine someMemberOf_toTuple (fun s hv => hs.terminatorPrefixes ?_) hlong.terminatorPrefixes _
    simp [normalize, hv, toTuple, Value.isPresent]
  rw [Line.isTerminator, Line.isTerminator, htokens, hprefixes]
  split
  · rename_i hnone
    obtain ⟨tokens, -, -, htexts⟩ := hs.terminatorTokens
    rw [← htokens, htexts, Line.holdsText?_texts] at hnone
    cases hnone
  · rfl
  · rfl

/-- Without long texts every line has the same kind under settings and under their normal form. -/
theorem kind_normalize (hs : c.normalize.IsSound) (hlong : c.LacksLongText) (line : Line) :
    Line.kind c.normalize line = Line.kind c line := by
  rw [Line.kind_eq, Line.kind_eq]
  cases hb : line.isBlank with
  | true => rfl
  | false =>
      rw [isMarker_normalize hs hlong.markerTokens, isTerminator_normalize hs hlong hb]
      rfl

end Config

/-- A line counts the same under two settings: it has the same kind, or it stands at the margin,
where every line that can be classified closes a block. -/
def Line.CountsSame (c c' : Config) (line : Line) : Prop :=
  kind c line = kind c' line ∨
    line.column = 0 ∧ (∃ k, kind c line = .ok k) ∧ ∃ k, kind c' line = .ok k

/-- The kinds of lines that only matter inside a block. -/
def Line.Kind.IsInner (k : Kind) : Prop := k ≠ .blank ∧ k ≠ .marker

namespace Line

variable {c c' : Config} {line : Line}

/-- Where the tokens agree, two kinds of a line that differ are both inner kinds. -/
theorem CountsSame.cases (h : CountsSame c c' line) (hm : isMarker c line = isMarker c' line) :
    kind c line = kind c' line ∨ line.column = 0 ∧
      ∃ k k', kind c line = .ok k ∧ kind c' line = .ok k' ∧ k.IsInner ∧ k'.IsInner := by
  rcases h with heq | ⟨hcolumn, ⟨k, hk⟩, k', hk'⟩
  · exact .inl heq
  by_cases hb : line.isBlank = true
  · exact .inl (((kind_eq_blank_iff c).mpr hb).trans ((kind_eq_blank_iff c').mpr hb).symm)
  by_cases hmarker : isMarker c line = .ok true
  · rw [Bool.not_eq_true] at hb
    have hkind : kind c line = .ok .marker := kind_eq_marker_iff.mpr ⟨hb, hmarker⟩
    exact .inl (hkind.trans (kind_eq_marker_iff.mpr ⟨hb, hm ▸ hmarker⟩).symm)
  have hinner : ∀ c'' k'', isMarker c'' line = isMarker c line → kind c'' line = .ok k'' →
      k''.IsInner := by
    intro c'' k'' hmarker'' hk''
    constructor
    · rintro rfl
      exact hb ((kind_eq_blank_iff c'').mp hk'')
    · rintro rfl
      exact hmarker (hmarker'' ▸ (kind_eq_marker_iff.mp hk'').2)
  exact .inr ⟨hcolumn, k, k', hk, hk', hinner c k rfl hk, hinner c' k' hm.symm hk'⟩

end Line

namespace Scan

variable {c c' : Config} {d : Document} {watched : Bool} {s t : Scan} {i : Nat}

/-- Closing leaves no block open, or there was none and nothing changes. -/
theorem context_of_close {stop : Int} (h : s.close d watched stop = .ok t) :
    t.context = {} ∨ t = s := by
  rcases close_cases h with ⟨-, rfl⟩ | ⟨start, mixed, -, -, -, rfl⟩
  · exact .inr rfl
  · exact .inl rfl

/-- The column of the open block is never negative. -/
theorem column_nonneg_of_step {line : Line} {kind : Line.Kind} (hs : 0 ≤ s.context.column)
    (h : s.step d watched i line kind = .ok t) : 0 ≤ t.context.column := by
  have hclose : ∀ {u : Scan}, s.close d watched i = .ok u → 0 ≤ u.context.column := by
    intro u hu
    rcases context_of_close hu with hcontext | rfl
    · simp [hcontext]
    · exact hs
  rcases step_cases h with ⟨u, -, rfl⟩ | hclosed | rfl | rfl
  · simp [enter]
  · exact hclose hclosed
  · exact hs
  · exact hs

/-- At the margin a line of any inner kind closes the open block. -/
theorem step_eq_of_margin {line : Line} {k k' : Line.Kind} (hs : 0 ≤ s.context.column)
    (hc : line.column = 0) (hk : k.IsInner) (hk' : k'.IsInner) :
    s.step d watched i line k = s.step d watched i line k' := by
  have hleft : (line.column : Int) ≤ s.context.column := by simpa [hc] using hs
  simp [Scan.step, hk.1, hk.2, hk'.1, hk'.2, hleft]

/-- Walks under two settings are the same if every line counts the same. -/
theorem walk_congr {rest : List Line} (hs : 0 ≤ s.context.column)
    (hm : ∀ line ∈ rest, Line.isMarker c line = Line.isMarker c' line)
    (hl : ∀ line ∈ rest, line.CountsSame c c') :
    Scan.walk c d watched i rest s = Scan.walk c' d watched i rest s := by
  -- A line at the margin closes the open block only because that block's column is not negative,
  -- so this is carried along with the state.
  induction rest generalizing i s with
  | nil => rfl
  | cons line rest ih =>
      have hrest : ∀ {u : Scan}, 0 ≤ u.context.column →
          Scan.walk c d watched (i + 1) rest u = Scan.walk c' d watched (i + 1) rest u :=
        fun hu => ih hu (fun line h => hm line (by simp [h])) fun line h => hl line (by simp [h])
      rcases (hl line (by simp)).cases (hm line (by simp)) with
        heq | ⟨hc, k, k', hk, hk', hinner, hinner'⟩
      · rw [Scan.walk, Scan.walk, heq]
        split
        · rfl
        · split
          · rfl
          · rename_i hstep
            exact hrest (column_nonneg_of_step hs hstep)
      · rw [Scan.walk, Scan.walk, hk, hk']
        simp only [step_eq_of_margin hs hc hinner hinner']
        split
        · rfl
        · rename_i hstep
          exact hrest (column_nonneg_of_step hs hstep)

/-- The regions of a marker line at the margin and one more line, by the column and kind of that
line. -/
def besideMarker (column : Nat) (k : Line.Kind) : List Region :=
  if k = .blank then [⟨0, 2, 0, []⟩]
  else if k = .marker then [⟨0, 1, 0, []⟩, ⟨1, 2, column, []⟩]
  else if column = 0 ∨ k = .terminator then [⟨0, 1, 0, []⟩]
  else if k = .key then [⟨0, 2, 0, [1]⟩]
  else [⟨0, 2, 0, []⟩]

/-- Away from the margin these regions tell all kinds but blank apart. -/
theorem besideMarker_injective {column : Nat} {k k' : Line.Kind} (hcolumn : column ≠ 0)
    (hk : k ≠ .blank) (hk' : k' ≠ .blank) (h : besideMarker column k = besideMarker column k') :
    k = k' := by
  cases k <;> cases k' <;> simp_all [besideMarker]

/-- The state of a walk after a marker line at the margin. -/
def opened : Scan := { context := ⟨.inside, some 0, 0, []⟩ }

theorem step_marker_opened (d : Document) {m : Line} (hcolumn : m.column = 0) :
    Scan.step d false 0 m .marker {} = .ok opened := by
  simp [Scan.step, close_of_outside, Except.map, enter, hcolumn, opened]

/-- One more line after the marker, and then the end of the document. -/
theorem step_close_opened (d : Document) (line : Line) (k : Line.Kind) :
    ∃ s t, opened.step d false 1 line k = .ok s ∧ s.close d false 2 = .ok t ∧
      t.regions = besideMarker line.column k := by
  have hclose : ∀ stop, opened.close d false stop = .ok { regions := [⟨0, stop, 0, []⟩] } :=
    fun _ => rfl
  have hinside : opened.context.state = .inside := rfl
  have hleft : (line.column : Int) ≤ opened.context.column ↔ line.column = 0 := by simp [opened]
  by_cases hb : k = .blank
  · exact ⟨opened, _, by simp [Scan.step, hb], hclose 2, by simp [besideMarker, hb]⟩
  by_cases hm : k = .marker
  · refine ⟨⟨⟨.inside, some 1, line.column, []⟩, [⟨0, 1, 0, []⟩], []⟩, _, ?_, rfl, ?_⟩
    · simp [Scan.step, hm, hclose, Except.map, enter]
    · simp [besideMarker, hm, topLevel, leastColumn?]
  by_cases hends : line.column = 0 ∨ k = .terminator
  · refine ⟨{ regions := [⟨0, 1, 0, []⟩] }, _, ?_, rfl, ?_⟩
    · simp [Scan.step, hb, hm, hinside, hleft, hends, hclose]
    · simp [besideMarker, hb, hm, hends]
  by_cases hkey : k = .key
  · have hdeep : line.column ≠ 0 := fun h => hends (.inl h)
    refine ⟨opened.note 1 line.column, _, ?_, rfl, ?_⟩
    · simp [Scan.step, hinside, hleft, hdeep, hkey]
    · simp [besideMarker, hdeep, hkey, topLevel, leastColumn?, note, opened]
  · refine ⟨opened, _, ?_, hclose 2, ?_⟩
    · simp [Scan.step, hb, hm, hinside, hleft, hends, hkey]
    · simp [besideMarker, hb, hm, hends, hkey]

end Scan

namespace Document

variable {c c' : Config} {d : Document} {watched : Bool}

/-- Lines of which the same ones hold a marker token, each under its own settings, give the same
numbers. -/
theorem markerLinesFrom_congr {i : Nat} {rest rest' : List Line}
    (hm : List.Forall₂ (fun line line' => Line.isMarker c line = Line.isMarker c' line')
      rest rest') :
    markerLinesFrom c i rest = markerLinesFrom c' i rest' := by
  induction hm generalizing i with
  | nil => rfl
  | cons hline _ ih => rw [markerLinesFrom, markerLinesFrom, hline, ih]

theorem markerLines_congr (hm : ∀ line ∈ d.lines, Line.isMarker c line = Line.isMarker c' line) :
    d.markerLines c = d.markerLines c' := by
  rw [markerLines, markerLines, markerLinesFrom_congr (List.forall₂_same.mpr hm)]

theorem survey_congr (hm : ∀ line ∈ d.lines, Line.isMarker c line = Line.isMarker c' line)
    (hl : ∀ line ∈ d.lines, line.CountsSame c c') : d.survey c watched = d.survey c' watched := by
  have hstart : 0 ≤ ({} : Scan).context.column := le_rfl
  rw [survey, survey, Scan.walk_congr hstart hm hl]

/-- After a marker line at the margin, the regions tell of what kind the next line is. -/
theorem regions_pair {m line : Line} (hm : Line.kind c m = .ok .marker) (hcolumn : m.column = 0) :
    regions ⟨[m, line]⟩ c =
      ((Line.kind c line).mapError Scan.Fault.line).map (Scan.besideMarker line.column) := by
  cases hk : Line.kind c line with
  | error e =>
      simp [regions, survey, Scan.walk, hm, Scan.step_marker_opened _ hcolumn, hk, Except.map]
  | ok k =>
      obtain ⟨s, t, hs, ht, hregions⟩ := Scan.step_close_opened ⟨[m, line]⟩ line k
      simp [regions, survey, Scan.walk, hm, Scan.step_marker_opened _ hcolumn, hk, hs, lineCount,
        ht, hregions, Except.map]

/-- Regions that agree after a marker line at the margin tell that a line counts the same. -/
theorem countsSame_of_regions_pair {m line : Line} (hcolumn : m.column = 0)
    (hm : Line.kind c m = .ok .marker) (hm' : Line.kind c' m = .ok .marker)
    (h : regions ⟨[m, line]⟩ c = regions ⟨[m, line]⟩ c') : line.CountsSame c c' := by
  rw [regions_pair hm hcolumn, regions_pair hm' hcolumn] at h
  -- A blank line leaves no trace in the regions, but it is blank under all settings.
  by_cases hb : line.isBlank = true
  · left
    rw [(Line.kind_eq_blank_iff c).mpr hb, (Line.kind_eq_blank_iff c').mpr hb]
  have hblank : ∀ {c'' : Config} {k : Line.Kind}, Line.kind c'' line = .ok k → k ≠ .blank := by
    rintro c'' k hk rfl
    exact hb ((Line.kind_eq_blank_iff c'').mp hk)
  cases hk : Line.kind c line with
  | error e =>
      cases hk' : Line.kind c' line with
      | error e' => simp_all [Line.CountsSame, Except.map]
      | ok k' => simp [hk, hk', Except.map] at h
  | ok k =>
      cases hk' : Line.kind c' line with
      | error e' => simp [hk, hk', Except.map] at h
      | ok k' =>
          by_cases hmargin : line.column = 0
          · exact .inr ⟨hmargin, ⟨k, hk⟩, k', hk'⟩
          · left
            have hsame : Scan.besideMarker line.column k = Scan.besideMarker line.column k' := by
              simpa [hk, hk', Except.map] using h
            rw [hk, hk', Scan.besideMarker_injective hmargin (hblank hk) (hblank hk') hsame]

end Document

namespace Config

variable {c : Config}

/-- Under checked settings some line at the margin is a marker. -/
theorem exists_marker_at_margin (hs : c.IsSound) :
    ∃ m : Line, m.column = 0 ∧ m.isBlank = false ∧ Line.isMarker c m = .ok true := by
  obtain ⟨tokens, hne, -, htokens⟩ := hs.markerTokens
  obtain ⟨token, rest, rfl⟩ := List.exists_cons_of_ne_nil hne
  refine ⟨'x' :: token.toList, rfl, ?_, ?_⟩
  · rw [← Bool.not_eq_true, Line.isBlank_eq_true_iff]
    intro h
    exact absurd (h 'x' (by simp)) (by decide)
  · have hfound : Text.occursIn token.toList ('x' :: token.toList) = true :=
      Text.occursIn_eq_true_iff.mpr (List.suffix_cons _ _).isInfix
    simp [Line.isMarker_of_texts htokens, hfound]

/-- A long text of marker tokens shows in a document of one character. -/
theorem markerLines_ne_of_isLongText (hlong : c.markerTokens.IsLongText) :
    ∃ d : Document, d.markerLines c ≠ d.markerLines c.normalize := by
  obtain ⟨s, hs, hlength⟩ := hlong
  obtain ⟨a, b, rest, hchars⟩ : ∃ a b rest, s.toList = a :: b :: rest := by
    rw [← String.length_toList] at hlength
    match hc : s.toList with
    | [] => simp [hc] at hlength
    | [_] => simp [hc] at hlength
    | a :: b :: rest => exact ⟨a, b, rest, rfl⟩
  have hraw : Line.isMarker c [a] = .ok true := by
    simp [Line.isMarker, hs, Line.someMemberOf, Value.members?, hchars, Line.someMember,
      Line.holdsMarker, Text.occursIn]
  have hnormal : Line.isMarker c.normalize [a] = .ok false := by
    simp [Line.isMarker, hs, normalize, toTuple, Line.someMemberOf, Value.members?, hchars,
      Line.someMember, Line.holdsMarker, Text.occursIn]
  refine ⟨⟨[[a]]⟩, ?_⟩
  simp [Document.markerLines, Document.markerLinesFrom, hraw, hnormal, Except.map]

/-- Settings that pass the check and have no long bare texts give the same marker lines and surveys
as their normal form. In general, marker lines and regions are the same on all documents exactly
when the marker tokens are no long bare text and every line counts the same. -/
theorem locators_normalize_iff (h : c.check = .ok ()) :
    (c.LacksLongText → ∀ (d : Document) (watched : Bool),
      d.markerLines c = d.markerLines c.normalize ∧
        d.survey c watched = d.survey c.normalize watched) ∧
    ((∀ d : Document, d.markerLines c = d.markerLines c.normalize ∧
        d.regions c = d.regions c.normalize) ↔
      ¬ c.markerTokens.IsLongText ∧ ∀ line : Line, line.CountsSame c c.normalize) := by
  have hs : c.normalize.IsSound := check_eq_ok_iff.mp h
  have hsame : ¬ c.markerTokens.IsLongText → (∀ line : Line, line.CountsSame c c.normalize) →
      ∀ (d : Document) (watched : Bool), d.markerLines c = d.markerLines c.normalize ∧
        d.survey c watched = d.survey c.normalize watched := by
    intro hlong hl d watched
    have hm : ∀ line ∈ d.lines, Line.isMarker c line = Line.isMarker c.normalize line :=
      fun line _ => (isMarker_normalize hs hlong line).symm
    exact ⟨Document.markerLines_congr hm, Document.survey_congr hm fun line _ => hl line⟩
  refine ⟨fun hlong => ?_, fun hagree => ?_, ?_⟩
  · exact hsame hlong.markerTokens fun line => .inl (kind_normalize hs hlong line).symm
  · have hlong : ¬ c.markerTokens.IsLongText := fun hlong => by
      obtain ⟨d, hd⟩ := markerLines_ne_of_isLongText hlong
      exact hd (hagree d).1
    refine ⟨hlong, fun line => ?_⟩
    -- Two lines are enough to tell: a marker at the margin and the line itself.
    obtain ⟨m, hcolumn, hb, hmarker⟩ := exists_marker_at_margin hs
    have hm' : Line.kind c.normalize m = .ok .marker := Line.kind_eq_marker_iff.mpr ⟨hb, hmarker⟩
    have hm : Line.kind c m = .ok .marker :=
      Line.kind_eq_marker_iff.mpr ⟨hb, isMarker_normalize hs hlong m ▸ hmarker⟩
    exact Document.countsSame_of_regions_pair hcolumn hm hm' (hagree ⟨[m, line]⟩).2
  · rintro ⟨hlong, hl⟩ d
    obtain ⟨hmarkers, hsurvey⟩ := hsame hlong hl d false
    exact ⟨hmarkers, congrArg Survey.regions hsurvey⟩

/-- Settings as a caller may write them, with a list and bare texts of one character. -/
def looselyWritten : Config :=
  { markerTokens := .list [.text "css("], terminatorTokens := .text "\x7d",
    terminatorPrefixes := .text ")" }

theorem locators_normalize_iff_looselyWritten :
    looselyWritten.check = .ok () ∧ ∀ (d : Document) (watched : Bool),
      d.markerLines looselyWritten = d.markerLines looselyWritten.normalize ∧
        d.survey looselyWritten watched = d.survey looselyWritten.normalize watched := by
  have hcheck : looselyWritten.check = .ok () := Stages.eq_ok_of_toOption (by decide +kernel)
  refine ⟨hcheck, (locators_normalize_iff hcheck).1 ⟨?_, ?_, ?_⟩⟩
  · rintro ⟨s, hs, -⟩
    cases hs
  · rintro ⟨s, hs, hlength⟩
    cases hs
    exact absurd hlength (by decide)
  · rintro ⟨s, hs, hlength⟩
    cases hs
    exact absurd hlength (by decide)

/-- Settings with a bare text of two characters as the marker tokens. -/
def bareMarker : Config := { markerTokens := .text "ab" }

theorem locators_bareMarker :
    bareMarker.check = .ok () ∧
      Document.markerLines ⟨[['a']]⟩ bareMarker = .ok [0] ∧
      Document.regions ⟨[['a']]⟩ bareMarker = .ok [⟨0, 1, 0, []⟩] ∧
      Document.markerLines ⟨[['a']]⟩ bareMarker.normalize = .ok [] ∧
      Document.regions ⟨[['a']]⟩ bareMarker.normalize = .ok [] :=
  ⟨Stages.eq_ok_of_toOption (by decide +kernel), Stages.eq_ok_of_toOption (by decide +kernel),
    Stages.eq_ok_of_toOption (by decide +kernel), Stages.eq_ok_of_toOption (by decide +kernel),
    Stages.eq_ok_of_toOption (by decide +kernel)⟩

end Config

end Foldline
