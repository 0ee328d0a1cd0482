import Foldline.Intent
import Foldline.Proofs.MarkerLines

/-! # Settings under which every document is answered

Settings that come out of a search have passed the check, and the search for marker lines answers
under them on every document. A walk over a document also tries the optional prefixes of
terminators. The check passes over prefixes that count as absent, and one that is no collection at
all, such as the number zero, is a fault as soon as a line gets to it. -/

namespace Foldline

/-- Nothing, false and the numbers zero: the values that count as absent and are no collections. -/
def Value.isNought : Value → Bool
  | .null => true
  | .bool b => !b
  | .int n => n == 0
  | .real x => x.isZero
  | _ => false

theorem Value.isText_eq_true_iff {v : Value} {s : String} : v.isText s = true ↔ v = .text s := by
  cases v <;> simp [Value.isText]

/-- Prefixes that pass the check are a collection unless they are nought. -/
theorem Config.IsSound.isSome_members?_iff {c : Config} (hs : c.IsSound) :
    c.terminatorPrefixes.members?.isSome = true ↔ c.terminatorPrefixes.isNought = false := by
  cases hpresent : c.terminatorPrefixes.isPresent with
  | true =>
      obtain ⟨tokens, -, -, htokens⟩ := hs.terminatorPrefixes hpresent
      simp [htokens, Value.texts, Value.members?, Value.isNought]
  | false =>
      generalize c.terminatorPrefixes = v at hpresent
      cases v <;> simp_all [Value.isPresent, Value.members?, Value.isNought]

namespace Document

variable {config : Config} {d : Document}

/-- Every question about a document has an answer: the marker lines, the regions, the key lines and
the plan of any intent. A watched walk looks lines up by number, so it has to be able to count
them. -/
structure Answers (config : Config) (d : Document) : Prop where
  markerLines : ∃ lines, d.markerLines config = .ok lines
  survey : ∀ watched, (watched = true → d.lineCount ≤ indexLimit) →
    ∃ rs, (d.survey config watched).regions = .ok rs
  keyLines : ∃ lines, d.keyLines config = .ok lines
  plan : ∀ (i : Intent) (watched : Bool), (watched = true → d.lineCount ≤ indexLimit) →
    ∃ request, (i.plan (some d) config watched).outcome = .ok request

/-- All questions are answered when the tokens can be looked for and every line has a kind. -/
theorem answers_iff :
    d.Answers config ↔ (∃ lines, d.markerLines config = .ok lines) ∧
      ∀ line ∈ d.lines, ∃ kind, Line.kind config line = .ok kind := by
  constructor
  · intro h
    exact ⟨h.markerLines, (survey_defined_iff (by simp)).mp (h.survey false (by simp))⟩
  · rintro ⟨⟨lines, hlines⟩, hk⟩
    have hregions : d.regions config = .ok (d.outline config) := survey_regions hk (by simp)
    refine ⟨⟨lines, hlines⟩, fun watched hw => ⟨_, survey_regions hk hw⟩, ?_, ?_⟩
    · exact ⟨_, Stages.map_eq_ok_iff.mpr ⟨_, hregions, rfl⟩⟩
    · intro i watched hw
      by_cases hi : i = .foldNames
      · simp [Intent.plan, hi, survey_regions hk hw, Except.map]
      · simp [Intent.plan, hi, hlines, Except.map]

/-- Tokens that pass the check can be looked for in every document. -/
theorem markerLines_of_isSound (hs : config.IsSound) (d : Document) :
    ∃ lines, d.markerLines config = .ok lines := by
  obtain ⟨tokens, -, -, htokens⟩ := hs.markerTokens
  exact ⟨_, markerLines_eq_ok fun line _ => Line.isMarker_of_texts htokens⟩

/-- Under settings that come out of a search, the marker lines of a document are always found. All
other questions are answered too unless the prefixes are nought and some line is not settled before
they are tried: it is not blank, holds no marker token and is no terminator token. -/
theorem answers_iff_of_build {host : Host} {start : Path} {overrides : Config.Entries}
    (hb : Config.build host start overrides = .ok config) (hp : Line.PatternIsTotal config)
    (d : Document) :
    (∃ lines, d.markerLines config = .ok lines) ∧
      (d.Answers config ↔ config.terminatorPrefixes.isNought = false ∨
        ∀ line ∈ d.lines, line.isBlank = true ∨ Line.isMarker config line = .ok true ∨
          config.terminatorTokens.holdsText? (Text.trim line) = some true) := by
  obtain ⟨hnormal, hcheck⟩ := Config.build_eq_ok hb
  have hs : config.IsSound := hnormal ▸ Config.check_eq_ok_iff.mp hcheck
  have hmarkers := markerLines_of_isSound hs d
  refine ⟨hmarkers, ?_⟩
  rw [answers_iff, and_iff_right hmarkers, ← hs.isSome_members?_iff]
  simp only [Line.kind_defined_iff hs hp]
  constructor
  · intro h
    by_cases hm : config.terminatorPrefixes.members?.isSome = true
    · exact .inl hm
    · exact .inr fun line hline => (h line hline).resolve_left hm
  · rintro (hm | h) line hline
    · exact .inl hm
    · exact .inr (h line hline)

/-- A host whose settings file gives the number zero as prefixes. -/
def zeroPrefixes : Host where
  tree := ⟨[(["pyproject.toml".toList],
    .file "[tool.stylex-fold]\nterminator_prefixes = 0\n".toUTF8.toList)]⟩
  current := []

/-- A blank line, a marker line and a terminator token. -/
def settledLines : Document := ⟨["", "stylex.create(\x7b", "\x7d"].map String.toList⟩

theorem answers_iff_of_build_zeroPrefixes :
    ∃ c, Config.build zeroPrefixes (.absolute []) [] = .ok c ∧ Line.PatternIsTotal c ∧
      c.terminatorPrefixes.isNought = true ∧ settledLines.Answers c := by
  obtain ⟨c, hb, hc⟩ : ∃ c, Config.build zeroPrefixes (.absolute []) [] = .ok c ∧
      (c.keyPattern.isText Config.defaultKeyPattern && c.terminatorPrefixes.isNought &&
        settledLines.lines.all fun line => line.isBlank ||
          (Line.isMarker c line).toOption == some true ||
            c.terminatorTokens.holdsText? (Text.trim line) == some true) = true :=
    Stages.exists_eq_ok_of_any (by decide +kernel)
  simp only [Bool.and_eq_true, List.all_eq_true, Bool.or_eq_true, beq_iff_eq, or_assoc] at hc
  obtain ⟨⟨hkey, hnought⟩, hlines⟩ := hc
  have hp := Line.patternIsTotal_of_default (Value.isText_eq_true_iff.mp hkey)
  refine ⟨c, hb, hp, hnought, (answers_iff_of_build hb hp settledLines).2.mpr (.inr ?_)⟩
  intro line hline
  exact (hlines line hline).imp_right (.imp_left Stages.eq_ok_of_toOption)

/-- A line that is neither blank nor a marker nor a terminator token. -/
def plainStatement : Document := ⟨["const a = 1;".toList]⟩

theorem regions_zeroPrefixes_plainStatement :
    ∃ c, Config.build zeroPrefixes (.absolute []) [] = .ok c ∧ Line.PatternIsTotal c ∧
      plainStatement.regions c = .error (.line (.notACollection "int")) := by
  obtain ⟨c, hb, hc⟩ : ∃ c, Config.build zeroPrefixes (.absolute []) [] = .ok c ∧
      (c.keyPattern.isText Config.defaultKeyPattern &&
        match plainStatement.regions c with
        | .error e => e == .line (.notACollection "int")
        | .ok _ => false) = true :=
    Stages.exists_eq_ok_of_any (by decide +kernel)
  obtain ⟨hkey, hfault⟩ := Bool.and_eq_true_iff.mp hc
  have hp := Line.patternIsTotal_of_default (Value.isText_eq_true_iff.mp hkey)
  refine ⟨c, hb, hp, ?_⟩
  cases hr : plainStatement.regions c with
  | error e =>
      rw [hr] at hfault
      exact congrArg Except.error (beq_iff_eq.mp hfault)
  | ok rs =>
      rw [hr] at hfault
      cases hfault

end Document

end Foldline
