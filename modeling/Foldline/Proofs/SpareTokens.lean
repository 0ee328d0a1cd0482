import Foldline.Proofs.Padding
import Mathlib.Logic.Relation

/-! # Tokens that make no difference

A token is spare when every line that it would be found in is settled by the others already: a
marker token that holds another one, a beginning that starts with another one, a terminator token
that starts with a beginning, or one with blanks at its ends, which no trimmed line equals. The
tokens of a scan can be put in any order, repeated and added to by spare ones, over and over, and
each line keeps its kind. -/

namespace Foldline

namespace Text

/-- A text is its trimmed form with blanks at both ends. -/
theorem exists_pad_trim (s : List Char) :
    ∃ front back, (∀ c ∈ front, isBlank c = true) ∧ (∀ c ∈ back, isBlank c = true) ∧
      s = front ++ trim s ++ back := by
  have hback := List.takeWhile_append_dropWhile (p := isBlank) (l := (s.dropWhile isBlank).reverse)
  refine ⟨s.takeWhile isBlank, ((s.dropWhile isBlank).reverse.takeWhile isBlank).reverse,
    fun c hc => List.mem_takeWhile_imp hc, fun c hc => ?_, ?_⟩
  · exact List.mem_takeWhile_imp (List.mem_reverse.mp hc)
  · rw [trim, trimBy, List.append_assoc, ← List.reverse_append, hback, List.reverse_reverse,
      List.takeWhile_append_dropWhile]

theorem trim_trim (s : List Char) : trim (trim s) = trim s := by
  obtain ⟨front, back, hfront, hback, hs⟩ := exists_pad_trim s
  calc
    trim (trim s) = trim (front ++ trim s ++ back) := (trim_pad hfront hback).symm
    _ = trim s := by rw [← hs]

end Text

/-- One change to a row of tokens: another order, or one more token, which is there already or is
spare. -/
inductive RowChange (IsSpare : String → Prop) : List String → List String → Prop where
  | permuted {row row' : List String} (h : row.Perm row') : RowChange IsSpare row row'
  | repeated {front back : List String} {token : String} (h : token ∈ front ++ back) :
      RowChange IsSpare (front ++ back) (front ++ token :: back)
  | added {front back : List String} {token : String} (h : IsSpare token) :
      RowChange IsSpare (front ++ back) (front ++ token :: back)

/-- A change does not show in a search if a spare token is found only where another one is, or where
`found` says so anyway. -/
theorem RowChange.any_or {IsSpare : String → Prop} {row row' : List String} {test : String → Bool}
    {found : Bool} (h : RowChange IsSpare row row')
    (hspare : ∀ token, IsSpare token → test token = true → row.any test = true ∨ found = true) :
    (row'.any test || found) = (row.any test || found) := by
  cases h with
  | permuted h => rw [h.any_eq]
  | @repeated front back token h =>
      have hany : test token = true → (front ++ back).any test = true :=
        fun htoken => List.any_eq_true.mpr ⟨token, h, htoken⟩
      rw [Bool.eq_iff_iff]
      simp only [List.any_append, List.any_cons, Bool.or_eq_true] at hany ⊢
      tauto
  | @added front back token h =>
      have hany := hspare token h
      rw [Bool.eq_iff_iff]
      simp only [List.any_append, List.any_cons, Bool.or_eq_true] at hany ⊢
      tauto

/-- The three rows of tokens that a scan looks for. -/
structure TokenRows where
  markers : List String
  terminators : List String
  prefixes : List String

namespace TokenRows

variable {t t' : TokenRows}

/-- One change to the tokens of a scan, none of which makes a difference. -/
inductive Change : TokenRows → TokenRows → Prop where
  | markers {t : TokenRows} {row : List String}
      (h : RowChange (fun token => ∃ m ∈ t.markers, m.toList <:+: token.toList) t.markers row) :
      Change t { t with markers := row }
  | terminators {t : TokenRows} {row : List String}
      (h : RowChange (fun token => (∃ p ∈ t.prefixes, p.toList <+: token.toList) ∨
        Text.trim token.toList ≠ token.toList) t.terminators row) :
      Change t { t with terminators := row }
  | prefixes {t : TokenRows} {row : List String}
      (h : RowChange (fun token => ∃ p ∈ t.prefixes, p.toList <+: token.toList) t.prefixes row) :
      Change t { t with prefixes := row }

/-- Whether a marker token stands in a line. -/
def marks (t : TokenRows) (line : Line) : Bool := t.markers.any fun m => Text.occursIn m.toList line

/-- Whether a trimmed line is a terminator token or starts with a beginning. -/
def ends (t : TokenRows) (trimmed : List Char) : Bool :=
  (t.terminators.any fun token => token == String.ofList trimmed) ||
    t.prefixes.any fun p => p.toList.isPrefixOf trimmed

/-- A marker token that holds another one is found only where the other one is. -/
theorem Change.marks_eq (h : Change t t') (line : Line) : t'.marks line = t.marks line := by
  cases h with
  | markers h =>
      have hspare : ∀ token : String, (∃ m ∈ t.markers, m.toList <:+: token.toList) →
          Text.occursIn token.toList line = true → t.marks line = true ∨ false = true := by
        rintro token ⟨m, hm, hpart⟩ hfound
        have hline : m.toList <:+: line := hpart.trans (Text.occursIn_eq_true_iff.mp hfound)
        exact .inl (List.any_eq_true.mpr ⟨m, hm, Text.occursIn_eq_true_iff.mpr hline⟩)
      simpa [marks] using h.any_or hspare
  | terminators h => rfl
  | prefixes h => rfl

/-- Spare terminator tokens and beginnings end only lines that are ended without them. -/
theorem Change.ends_eq (h : Change t t') (line : Line) :
    t'.ends (Text.trim line) = t.ends (Text.trim line) := by
  have hstart : ∀ {token : List Char}, (∃ p ∈ t.prefixes, p.toList <+: token) →
      token <+: Text.trim line →
        (t.prefixes.any fun p => p.toList.isPrefixOf (Text.trim line)) = true := by
    rintro token ⟨p, hp, hpart⟩ hline
    exact List.any_eq_true.mpr ⟨p, hp, List.isPrefixOf_iff_prefix.mpr (hpart.trans hline)⟩
  cases h with
  | markers h => rfl
  | terminators h =>
      refine h.any_or fun token hspare heq => .inr ?_
      have hline : token.toList = Text.trim line := by
        rw [eq_of_beq heq, String.toList_ofList]
      rcases hspare with hbegins | hloose
      · exact hstart hbegins (hline ▸ List.prefix_rfl)
      · exact absurd (by rw [hline, Text.trim_trim]) hloose
  | prefixes h =>
      have hspare : ∀ token : String, (∃ p ∈ t.prefixes, p.toList <+: token.toList) →
          token.toList.isPrefixOf (Text.trim line) = true →
          (t.prefixes.any fun p => p.toList.isPrefixOf (Text.trim line)) = true ∨ false = true :=
        fun token hbegins hfound => .inl (hstart hbegins (List.isPrefixOf_iff_prefix.mp hfound))
      have hrow := h.any_or hspare
      simp only [Bool.or_false] at hrow
      rw [ends, ends, hrow]

/-- Any number of changes leaves what the tokens say of a line as it is. -/
theorem tests_eq_of_changes (h : Relation.ReflTransGen Change t t') (line : Line) :
    t'.marks line = t.marks line ∧ t'.ends (Text.trim line) = t.ends (Text.trim line) := by
  induction h with
  | refl => exact ⟨rfl, rfl⟩
  | tail _ hlast ih => exact ⟨(hlast.marks_eq line).trans ih.1, (hlast.ends_eq line).trans ih.2⟩

end TokenRows

namespace Config

variable {c : Config} {t t' : TokenRows} {line : Line}

/-- The tokens of the settings are these texts. -/
structure HasTokens (c : Config) (t : TokenRows) : Prop where
  markers : c.markerTokens = .texts t.markers
  terminators : c.terminatorTokens = .texts t.terminators
  prefixes : c.terminatorPrefixes = .texts t.prefixes

/-- The same settings with other tokens. -/
def withTokens (c : Config) (t : TokenRows) : Config :=
  { c with
    markerTokens := .texts t.markers
    terminatorTokens := .texts t.terminators
    terminatorPrefixes := .texts t.prefixes }

theorem hasTokens_withTokens (c : Config) (t : TokenRows) : (c.withTokens t).HasTokens t :=
  ⟨rfl, rfl, rfl⟩

theorem HasTokens.isMarker_eq (h : c.HasTokens t) (line : Line) :
    Line.isMarker c line = .ok (t.marks line) := Line.isMarker_of_texts h.markers

theorem HasTokens.isTerminator_eq (h : c.HasTokens t) (line : Line) :
    Line.isTerminator c line = .ok (t.ends (Text.trim line)) := by
  rw [Line.isTerminator, h.terminators, h.prefixes, Line.holdsText?_texts, TokenRows.ends]
  cases t.terminators.any fun token => token == String.ofList (Text.trim line) with
  | true => rfl
  | false => exact Line.startsWith_texts (Text.trim line) t.prefixes

/-- Settings that differ in their tokens only, and whose tokens say the same of a line, give it the
same kind. -/
theorem HasTokens.kind_withTokens (h : c.HasTokens t) (hmarks : t'.marks line = t.marks line)
    (hends : t'.ends (Text.trim line) = t.ends (Text.trim line)) :
    Line.kind (c.withTokens t') line = Line.kind c line := by
  have h' := hasTokens_withTokens c t'
  rw [Line.kind_eq, Line.kind_eq, h.isMarker_eq, h.isTerminator_eq, h'.isMarker_eq,
    h'.isTerminator_eq, hmarks, hends]
  rfl

/-- Tokens in another order, repeated ones and spare ones, however many, leave the marker lines and
the survey of every document as they are. -/
theorem locators_of_changes (hc : c.HasTokens t) (h : Relation.ReflTransGen TokenRows.Change t t')
    (d : Document) (watched : Bool) :
    d.markerLines (c.withTokens t') = d.markerLines c ∧
      d.survey (c.withTokens t') watched = d.survey c watched := by
  have hm : ∀ line ∈ d.lines, Line.isMarker (c.withTokens t') line = Line.isMarker c line := by
    intro line _
    rw [hc.isMarker_eq, (hasTokens_withTokens c t').isMarker_eq,
      (TokenRows.tests_eq_of_changes h line).1]
  refine ⟨Document.markerLines_congr hm, Document.survey_congr hm fun line _ => .inl ?_⟩
  obtain ⟨hmarks, hends⟩ := TokenRows.tests_eq_of_changes h line
  exact hc.kind_withTokens hmarks hends

/-- The tokens that stand by default. -/
def defaultRows : TokenRows := ⟨defaultMarkers, ["\x7d"], ["\x7d);"]⟩

/-- The default tokens with a longer marker token in front, the others turned around and one twice,
a longer beginning, a terminator token that starts with the shorter one, and one with a blank. -/
def spareRows : TokenRows where
  markers := ["my.stylex.create(", "stylex.keyframes", "stylex.create", "stylex.keyframes"]
  terminators := [" \x7d", "\x7d);;", "\x7d"]
  prefixes := ["\x7d);", "\x7d);;"]

theorem changes_spareRows : Relation.ReflTransGen TokenRows.Change defaultRows spareRows := by
  have hturned : TokenRows.Change defaultRows
      { defaultRows with markers := ["stylex.keyframes", "stylex.create"] } :=
    .markers (.permuted (.swap _ _ []))
  have htwice : TokenRows.Change
      { defaultRows with markers := ["stylex.keyframes", "stylex.create"] }
      { defaultRows with markers := ["stylex.keyframes", "stylex.create", "stylex.keyframes"] } :=
    .markers (@RowChange.repeated _ ["stylex.keyframes", "stylex.create"] [] _ (by simp))
  have hlonger : TokenRows.Change
      { defaultRows with markers := ["stylex.keyframes", "stylex.create", "stylex.keyframes"] }
      { defaultRows with markers := spareRows.markers } :=
    .markers (@RowChange.added _ [] _ _ ⟨"stylex.create", by simp, "my.".toList, ['('], rfl⟩)
  have hbeginning : TokenRows.Change { defaultRows with markers := spareRows.markers }
      { spareRows with terminators := ["\x7d"] } :=
    .prefixes (@RowChange.added _ ["\x7d);"] [] _ ⟨"\x7d);", List.mem_singleton_self _, [';'], rfl⟩)
  have hbegins : TokenRows.Change { spareRows with terminators := ["\x7d"] }
      { spareRows with terminators := ["\x7d);;", "\x7d"] } :=
    .terminators (@RowChange.added _ [] _ _ (.inl ⟨"\x7d);", List.mem_cons_self, [';'], rfl⟩))
  have hloose : TokenRows.Change { spareRows with terminators := ["\x7d);;", "\x7d"] } spareRows :=
    .terminators (@RowChange.added _ [] _ _ (.inr (by decide)))
  exact .head hturned <| .head htwice <| .head hlonger <| .head hbeginning <| .head hbegins <|
    .single hloose

theorem locators_of_changes_spareRows :
    ({} : Config).HasTokens defaultRows ∧
      Relation.ReflTransGen TokenRows.Change defaultRows spareRows ∧
      (Document.twoBlocks.survey (withTokens {} spareRows) true).regions =
        .ok [⟨0, 6, 0, [1, 5]⟩, ⟨7, 10, 0, [9]⟩] := by
  have hdefault : ({} : Config).HasTokens defaultRows := ⟨rfl, rfl, rfl⟩
  obtain ⟨-, hsurvey⟩ := locators_of_changes hdefault changes_spareRows Document.twoBlocks true
  refine ⟨hdefault, changes_spareRows, ?_⟩
  rw [hsurvey]
  exact Document.survey_twoBlocks

end Config

end Foldline
