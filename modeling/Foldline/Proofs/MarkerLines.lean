import Foldline.Proofs.KeyPattern
import Foldline.Proofs.Walk

/-! # Where blocks open

There are two ways to find the lines where blocks open: the search for marker lines looks for the
tokens in each line as it stands, and the walk over a document opens a block on each line of kind
marker. A blank line is of kind blank before it is looked at for tokens, so the two agree on all
documents exactly when no token is itself blank. -/

namespace Foldline

namespace Document

variable {config : Config} {d : Document} {p : Line → Bool}

/-- The numbers of the lines with a property, ascending. -/
def linesWhere (p : Line → Bool) (d : Document) : List Nat :=
  (List.range d.lineCount).filter fun i => d.lines[i]?.any p

theorem markerLinesFrom_eq_ok {i : Nat} {rest : List Line} (hrest : d.lines.drop i = rest)
    (hp : ∀ line ∈ rest, Line.isMarker config line = .ok (p line)) :
    markerLinesFrom config i rest =
      .ok (((List.range' i rest.length).filter fun k => d.lines[k]?.any p).map Int.ofNat) := by
  induction rest generalizing i with
  | nil => rfl
  | cons line rest ih =>
      obtain ⟨hl, hdrop⟩ := line_of_drop hrest
      have htail := ih hdrop fun line hline => hp line (by simp [hline])
      rw [markerLinesFrom, hp line (by simp)]
      simp only [htail, Except.map, List.length_cons, List.range'_succ, List.filter_cons, hl,
        Option.any_some]
      cases p line <;> rfl

/-- If every line can be looked at for tokens, the search gives the lines that hold one. -/
theorem markerLines_eq_ok (hp : ∀ line ∈ d.lines, Line.isMarker config line = .ok (p line)) :
    d.markerLines config = .ok ((d.linesWhere p).map Int.ofNat) := by
  rw [markerLines, markerLinesFrom_eq_ok List.drop_zero hp, linesWhere, List.range_eq_range']
  rfl

theorem exists_isMarker_of_markerLinesFrom {i : Nat} {rest : List Line} {lines : List Int}
    (h : markerLinesFrom config i rest = .ok lines) :
    ∀ line ∈ rest, ∃ found, Line.isMarker config line = .ok found := by
  induction rest generalizing i lines with
  | nil => simp
  | cons line rest ih =>
      rw [markerLinesFrom] at h
      split at h
      · cases h
      · rename_i found hfound
        obtain ⟨later, hlater, -⟩ := Stages.map_eq_ok_iff.mp h
        rw [List.forall_mem_cons]
        exact ⟨⟨found, hfound⟩, ih hlater⟩

/-- If there are marker lines at all, they are the lines where a marker token is found. -/
theorem markerLines_of_ok {lines : List Int} (h : d.markerLines config = .ok lines) :
    lines = (d.linesWhere (Line.findsMarker config)).map Int.ofNat := by
  have hdefined := exists_isMarker_of_markerLinesFrom (Stages.mapError_eq_ok_iff.mp h)
  have hfinds : ∀ line ∈ d.lines, Line.isMarker config line = .ok (Line.findsMarker config line) :=
    fun line hline => Line.isMarker_eq_findsMarker (hdefined line hline)
  rw [markerLines_eq_ok hfinds] at h
  exact (Except.ok.inj h).symm

theorem pairwise_linesWhere (p : Line → Bool) (d : Document) :
    (d.linesWhere p).Pairwise (· < ·) :=
  List.pairwise_lt_range.filter _

theorem mem_linesWhere {i : Nat} :
    i ∈ d.linesWhere p ↔ ∃ line, d.lines[i]? = some line ∧ p line = true := by
  simp only [linesWhere, List.mem_filter, List.mem_range, lineCount]
  constructor
  · rintro ⟨hi, hp⟩
    exact ⟨d.lines[i], List.getElem?_eq_getElem hi, by simpa [List.getElem?_eq_getElem hi] using hp⟩
  · rintro ⟨line, hl, hp⟩
    exact ⟨(List.getElem?_eq_some_iff.mp hl).1, by simpa [hl] using hp⟩

/-- The numbers of lines tell two properties apart exactly when some line does. -/
theorem linesWhere_eq_iff {q : Line → Bool} :
    d.linesWhere p = d.linesWhere q ↔ ∀ line ∈ d.lines, p line = q line := by
  constructor
  · intro h line hline
    obtain ⟨i, hl⟩ := List.getElem?_of_mem hline
    have hiff : i ∈ d.linesWhere p ↔ i ∈ d.linesWhere q := by rw [h]
    simp only [mem_linesWhere, hl, Option.some.injEq, exists_eq_left'] at hiff
    exact Bool.eq_iff_iff.mpr hiff
  · intro h
    refine List.filter_congr fun i hi => ?_
    cases hl : d.lines[i]? with
    | none => rfl
    | some line => exact h line (List.mem_of_getElem? hl)

/-- The lines of kind marker are those that hold a token and are not blank. -/
theorem markersBelow_lineCount (hp : ∀ line ∈ d.lines, Line.isMarker config line = .ok (p line)) :
    d.markersBelow config d.lineCount = d.linesWhere fun line => !line.isBlank && p line := by
  refine List.filter_congr fun i hi => ?_
  rw [Bool.eq_iff_iff, beq_iff_eq]
  cases hl : d.lines[i]? with
  | none => simp [kindAt?, hl]
  | some line =>
      have hkind : d.kindAt? config i = some .marker ↔ Line.kind config line = .ok .marker := by
        cases hk : Line.kind config line <;> simp [kindAt?, hl, hk, Except.toOption]
      rw [hkind, Line.kind_eq_marker_iff, hp line (List.mem_of_getElem? hl)]
      simp

/-- In a document whose lines can all be classified, the blocks open on the marker lines exactly
when no blank line holds a token. -/
theorem starts_eq_markerLines_iff_of_kinds
    (hk : ∀ line ∈ d.lines, ∃ kind, Line.kind config line = .ok kind)
    (hp : ∀ line ∈ d.lines, Line.isMarker config line = .ok (p line)) :
    (d.regions config).map (fun rs => rs.map (·.start)) = d.markerLines config ↔
      ∀ line ∈ d.lines, p line = true → line.isBlank = false := by
  have hregions : d.regions config = .ok (d.outline config) := survey_regions hk (by simp)
  have hstarts : (d.outline config).map (·.start) =
      (d.markersBelow config d.lineCount).map Int.ofNat := by
    simp [outline, blockAt]
  have hinj : Function.Injective (List.map Int.ofNat) :=
    List.map_injective_iff.mpr fun _ _ => Int.ofNat.inj
  rw [hregions, markerLines_eq_ok hp]
  simp only [Except.map, hstarts, Except.ok.injEq, hinj.eq_iff, markersBelow_lineCount hp,
    linesWhere_eq_iff]
  refine forall₂_congr fun line _ => ?_
  cases p line <;> simp

/-- Under normal settings that pass the check and have a tuple of prefixes, the blocks of every
document open on its marker lines exactly when no marker token is blank and every line has a kind.
Every line has a kind if the pattern of key lines can be tried on any text. -/
theorem starts_eq_markerLines_iff (hn : config.normalize = config) (h : config.check = .ok ())
    (hprefixes : ∃ items, config.terminatorPrefixes = .tuple items) :
    ((∀ d : Document, ∃ lines, d.markerLines config = .ok lines ∧
        (d.regions config).map (fun rs => rs.map (·.start)) = .ok lines) ↔
      (∀ token : String, config.markerTokens.holdsText? token.toList = some true →
        Line.isBlank token.toList = false) ∧
      ∀ line : Line, ∃ kind, Line.kind config line = .ok kind) ∧
    (Line.PatternIsTotal config → ∀ line : Line, ∃ kind, Line.kind config line = .ok kind) := by
  have hs : config.IsSound := hn ▸ Config.check_eq_ok_iff.mp h
  obtain ⟨tokens, -, -, htokens⟩ := hs.markerTokens
  have hholds : ∀ token : String,
      config.markerTokens.holdsText? token.toList = some true ↔ token ∈ tokens := by
    intro token
    simp [htokens, Line.holdsText?_texts]
  simp only [hholds]
  have hp : ∀ line, Line.isMarker config line =
      .ok (tokens.any fun token => Text.occursIn token.toList line) :=
    fun line => Line.isMarker_of_texts htokens
  refine ⟨⟨fun hagree => ?_, ?_⟩, fun htotal line => ?_⟩
  -- A document of one line tells whether that line has a kind, and a token as its own document
  -- whether the token is blank.
  · have hk : ∀ line : Line, ∃ kind, Line.kind config line = .ok kind := by
      intro line
      obtain ⟨lines, -, hstarts⟩ := hagree ⟨[line]⟩
      obtain ⟨rs, hrs, -⟩ := Stages.map_eq_ok_iff.mp hstarts
      have hdefined := (survey_defined_iff fun h : false = true => by cases h).mp ⟨rs, hrs⟩
      exact hdefined line (by simp)
    refine ⟨fun token htoken => ?_, hk⟩
    obtain ⟨lines, hlines, hstarts⟩ := hagree ⟨[token.toList]⟩
    have hagree' := (starts_eq_markerLines_iff_of_kinds (fun line _ => hk line)
      fun line _ => hp line).mp (hstarts.trans hlines.symm)
    refine hagree' token.toList (by simp) (List.any_eq_true.mpr ⟨token, htoken, ?_⟩)
    exact Text.occursIn_eq_true_iff.mpr List.infix_rfl
  · rintro ⟨hblank, hk⟩ d
    refine ⟨_, markerLines_eq_ok fun line _ => hp line, ?_⟩
    rw [← markerLines_eq_ok fun line _ => hp line,
      starts_eq_markerLines_iff_of_kinds (fun line _ => hk line) fun line _ => hp line]
    intro line _ hany
    obtain ⟨token, htoken, hoccurs⟩ := List.any_eq_true.mp hany
    exact Line.isBlank_of_occursIn hoccurs (hblank token htoken)
  · obtain ⟨items, hitems⟩ := hprefixes
    exact (Line.kind_defined_iff hs htotal).mpr (.inl (by simp [hitems, Value.members?]))

theorem starts_eq_markerLines_iff_default :
    ({} : Config).normalize = {} ∧ ({} : Config).check = .ok () ∧
      ∀ d : Document, ∃ lines, d.markerLines {} = .ok lines ∧
        (d.regions {}).map (fun rs => rs.map (·.start)) = .ok lines := by
  have hcheck : ({} : Config).check = .ok () := Stages.eq_ok_of_toOption (by decide +kernel)
  obtain ⟨hiff, hkinds⟩ := starts_eq_markerLines_iff rfl hcheck ⟨_, rfl⟩
  refine ⟨rfl, hcheck, hiff.mpr ⟨fun token htoken => ?_, ?_⟩⟩
  · have hmem : token ∈ Config.defaultMarkers := by
      simpa [Line.holdsText?_texts] using htoken
    rcases List.mem_pair.mp hmem with rfl | rfl <;> decide
  · exact hkinds (Line.patternIsTotal_of_default rfl)

/-- Settings with a space as the only marker token. -/
def blankMarker : Config := { markerTokens := .texts [" "] }

theorem starts_ne_markerLines_blankMarker :
    blankMarker.normalize = blankMarker ∧ blankMarker.check = .ok () ∧
      Line.PatternIsTotal blankMarker ∧ markerLines ⟨[[' ']]⟩ blankMarker = .ok [0] ∧
      regions ⟨[[' ']]⟩ blankMarker = .ok [] :=
  ⟨rfl, Stages.eq_ok_of_toOption (by decide +kernel), Line.patternIsTotal_of_default rfl,
    Stages.eq_ok_of_toOption (by decide +kernel), Stages.eq_ok_of_toOption (by decide +kernel)⟩

end Document

end Foldline
