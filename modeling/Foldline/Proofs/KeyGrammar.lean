import Foldline.Proofs.PatternLanguage

/-! # The form of key lines

By default a line names a key when, trimmed, it starts with a name, maybe with a quotation mark on
either side, a colon, maybe parameters in parentheses and an arrow, maybe a parenthesis, and an
opening brace. Blanks may stand around the colon and the arrow, and what comes after the brace does
not matter. A line is taken for a key line exactly when it can be put together from such parts, in
whichever way. -/

namespace Foldline

/-- Nothing or one quotation mark. -/
def IsQuoteMark (q : List Char) : Prop := q = [] ∨ q = ['\''] ∨ q = ['"']

/-- A name has no quotation mark, no colon and no blank in it. -/
def IsKeyName (name : List Char) : Prop :=
  name ≠ [] ∧ ∀ c ∈ name, c ≠ '\'' ∧ c ≠ '"' ∧ c ≠ ':' ∧ Text.isBlank c = false

def IsBlanks (blanks : List Char) : Prop := ∀ c ∈ blanks, Text.isBlank c = true

instance (blanks : List Char) : Decidable (IsBlanks blanks) :=
  decidable_of_iff (blanks.all Text.isBlank = true) List.all_eq_true

/-- Parameters in parentheses, all on one line, and an arrow. -/
def IsArrowHead (head : List Char) : Prop :=
  ∃ params gap after, '\n' ∉ params ∧ IsBlanks gap ∧ IsBlanks after ∧
    head = '(' :: params ++ ')' :: gap ++ ['=', '>'] ++ after

/-- The parts of a key line up to its opening brace. -/
structure KeyHead where
  opening : List Char
  name : List Char
  closing : List Char
  beforeColon : List Char
  afterColon : List Char
  arrow : List Char
  paren : List Char
  isQuoteMark_opening : IsQuoteMark opening
  isKeyName : IsKeyName name
  isQuoteMark_closing : IsQuoteMark closing
  isBlanks_beforeColon : IsBlanks beforeColon
  isBlanks_afterColon : IsBlanks afterColon
  isArrowHead : arrow = [] ∨ IsArrowHead arrow
  isParen : paren = [] ∨ paren = ['(']

def KeyHead.text (k : KeyHead) : List Char :=
  k.opening ++ k.name ++ k.closing ++ k.beforeColon ++ [':'] ++ k.afterColon ++ k.arrow ++
    k.paren ++ ['\x7b']

namespace Pattern

variable {before u rest : List Char} {c d : Char}

theorem accepts_exactly : (exactly c).accepts d = true ↔ d = c := by
  simp [exactly, CharTest.accepts, CaseRule.same, CaseRule.key, CaseRule.twins, Char.toNat_inj,
    @eq_comm _ c]

theorem accepts_space : space.accepts c = Text.isBlank c := by
  simp [space, CharTest.accepts, SetItem.holds, CaseRule.key, CharClass.contains]

theorem holds_one {code n : Nat} {ascii : Bool} :
    SetItem.holds .exact ascii n (.one code) = true ↔ n = code := by
  by_cases h : basicLimit < code <;>
    simp [SetItem.holds, CaseRule.key, CaseRule.same, CaseRule.twins, h, @eq_comm _ code]

theorem accepts_quote : quote.accepts c = true ↔ c = '\'' ∨ c = '"' := by
  have hmark : c.toNat = 39 ∨ c.toNat = 34 ↔ c = '\'' ∨ c = '"' :=
    or_congr (Char.toNat_inj (d := '\'')) (Char.toNat_inj (d := '"'))
  simpa [quote, CharTest.accepts, holds_one, CaseRule.key] using hmark

theorem accepts_nameChar : nameChar.accepts c = true ↔
    c ≠ '\'' ∧ c ≠ '"' ∧ c ≠ ':' ∧ Text.isBlank c = false := by
  have hone : ∀ code, SetItem.holds .exact false c.toNat (.one code) = decide (c.toNat = code) :=
    fun code => Bool.eq_iff_iff.mpr (holds_one.trans decide_eq_true_iff.symm)
  have hblank : SetItem.holds .exact false c.toNat (.cls .space false) = Text.isBlank c := by
    simp [SetItem.holds, CharClass.contains]
  have hmark : ∀ d : Char, c.toNat ≠ d.toNat ↔ c ≠ d := fun d => not_congr Char.toNat_inj
  rw [← hmark '\'', ← hmark '"', ← hmark ':']
  simp [nameChar, CharTest.accepts, hone, hblank, CaseRule.key]

theorem fits_unit {test : CharTest} : Fits (.unit test) before u rest ↔
    ∃ c, u = [c] ∧ test.accepts c = true := Iff.rfl

theorem fits_anchor {a : Anchor} : Fits (.anchor a) before u rest ↔
    u = [] ∧ a.holds { before, after := rest } = true := Iff.rfl

theorem fits_span {least : Nat} {most follow : Option Nat} {test : CharTest} :
    Fits (.span .greedy least most test follow) before u rest ↔
      (∀ c ∈ u, test.accepts c = true) ∧ least ≤ u.length ∧ (∀ n ∈ most, u.length ≤ n) ∧
        IsFollowed follow rest := Iff.rfl

theorem fits_seq {a b : Pattern} : Fits (.seq a b) before u rest ↔
    ∃ v w, u = v ++ w ∧ a.Fits before v (w ++ rest) ∧ b.Fits (v.reverse ++ before) w rest := Iff.rfl

theorem fits_exactly : Fits (.unit (exactly c)) before u rest ↔ u = [c] := by
  simp [fits_unit, accepts_exactly]

theorem isFollowed_char_iff : IsFollowed (some c.toNat) rest ↔ rest.head? = some c := by
  cases rest <;> simp [IsFollowed, Char.toNat_inj]

theorem fits_spaces (follow : Option Char) : Fits (spaces follow) before u rest ↔
    IsBlanks u ∧ ∀ c ∈ follow, rest.head? = some c := by
  cases follow with
  | none => simp [spaces, fits_span, accepts_space, IsBlanks, IsFollowed]
  | some c => simp [spaces, fits_span, accepts_space, IsBlanks, isFollowed_char_iff]

theorem fits_quote :
    Fits (.span .greedy 0 (some 1) quote none) before u rest ↔ IsQuoteMark u := by
  rcases u with _ | ⟨c, _ | ⟨d, u⟩⟩
  · simp [fits_span, IsFollowed, IsQuoteMark]
  · simp [fits_span, IsFollowed, IsQuoteMark, accepts_quote]
  · simp [fits_span, IsQuoteMark]

theorem fits_name : Fits (.span .greedy 1 none nameChar none) before u rest ↔ IsKeyName u := by
  simp only [fits_span, IsFollowed, accepts_nameChar, IsKeyName, ← List.length_pos_iff]
  simp [and_comm, Nat.succ_le_iff]

theorem fits_params : Fits (.span .greedy 0 none .notLineFeed (some ')'.toNat)) before u rest ↔
    '\n' ∉ u ∧ rest.head? = some ')' := by
  have hfeed : (∀ c ∈ u, CharTest.notLineFeed.accepts c = true) ↔ '\n' ∉ u := by
    simp only [CharTest.accepts, bne_iff_ne, List.forall_mem_ne']
  rw [← isFollowed_char_iff]
  simp [fits_span, hfeed]

theorem fits_paren :
    Fits (.span .greedy 0 (some 1) (exactly '(') (some '\x7b'.toNat)) before u rest ↔
      (u = [] ∨ u = ['(']) ∧ rest.head? = some '\x7b' := by
  rw [← isFollowed_char_iff]
  rcases u with _ | ⟨c, _ | ⟨d, u⟩⟩
  · simp [fits_span]
  · simp [fits_span, accepts_exactly]
  · simp [fits_span]

theorem fits_arrow : arrow.Fits before u rest ↔ IsArrowHead u := by
  simp only [arrow, fits_seq, fits_exactly, fits_params, fits_spaces]
  constructor
  · rintro ⟨_, _, rfl, rfl, params, _, rfl, ⟨hparams, -⟩, _, _, rfl, rfl, gap, _, rfl, ⟨hgap, -⟩,
      _, _, rfl, rfl, _, after, rfl, rfl, hafter, -⟩
    exact ⟨params, gap, after, hparams, hgap, hafter, by simp⟩
  · rintro ⟨params, gap, after, hparams, hgap, hafter, rfl⟩
    exact ⟨['('], _, by simp, rfl, params, _, rfl, ⟨hparams, rfl⟩, [')'], _, rfl, rfl, gap, _, rfl,
      ⟨hgap, by simp⟩, ['='], _, rfl, rfl, ['>'], after, rfl, rfl, hafter, by simp⟩

theorem fits_opening : opening.Fits before u rest ↔
    ∃ paren, (paren = [] ∨ paren = ['(']) ∧ u = paren ++ ['\x7b'] := by
  simp only [opening, fits_seq, fits_exactly, fits_paren]
  constructor
  · rintro ⟨paren, _, rfl, ⟨hparen, -⟩, rfl⟩
    exact ⟨paren, hparen, rfl⟩
  · rintro ⟨paren, hparen, rfl⟩
    exact ⟨paren, _, rfl, ⟨hparen, rfl⟩, rfl⟩

theorem fits_room {n : Nat} :
    Fits (.anchor (.room n)) before u rest ↔ u = [] ∧ n ≤ rest.length := by
  simp [fits_anchor, Anchor.holds, ← Bool.not_eq_true, isShorter_eq_true_iff]

theorem fits_textStart : Fits (.anchor .textStart) before u rest ↔ u = [] ∧ before = [] := by
  simp [fits_anchor, Anchor.holds]

/-- The default pattern takes up the head of a key line and nothing else. -/
theorem fits_keyForm : keyForm.Fits [] u rest ↔ ∃ k : KeyHead, u = k.text := by
  have hoptional : ∀ {before v after},
      Fits (.loop .greedy 0 (some 1) (.capture 1 arrow)) before v after ↔ v = [] ∨ IsArrowHead v :=
    or_congr_right fits_arrow
  simp only [keyForm, withOptional, namedColon, List.foldr_cons, List.foldr_nil, fits_seq,
    fits_room, fits_textStart, fits_quote, fits_name, fits_spaces, fits_exactly, hoptional,
    fits_opening]
  constructor
  · rintro ⟨_, _, rfl, ⟨rfl, -⟩, _, _, rfl, ⟨rfl, -⟩, opening, _, rfl, hopening, name, _, rfl,
      hname, closing, _, rfl, hclosing, beforeColon, _, rfl, ⟨hbefore, -⟩, _, _, rfl, rfl,
      afterColon, _, rfl, ⟨hafter, -⟩, arrow, _, rfl, harrow, paren, hparen, rfl⟩
    exact ⟨⟨opening, name, closing, beforeColon, afterColon, arrow, paren, hopening, hname,
      hclosing, hbefore, hafter, harrow, hparen⟩, by simp [KeyHead.text]⟩
  · rintro ⟨k, rfl⟩
    have hroom : 3 ≤ (k.text ++ rest).length := by
      have hname : 0 < k.name.length := List.length_pos_iff.mpr k.isKeyName.1
      simp only [KeyHead.text, List.length_append, List.length_cons, List.length_nil]
      omega
    refine ⟨[], k.text, rfl, ⟨rfl, hroom⟩, [], k.text, rfl, ⟨rfl, rfl⟩, k.opening, _, ?_,
      k.isQuoteMark_opening, k.name, _, rfl, k.isKeyName, k.closing, _, rfl, k.isQuoteMark_closing,
      k.beforeColon, _, rfl, ⟨k.isBlanks_beforeColon, ?_⟩, [':'], _, rfl, rfl, k.afterColon, _, rfl,
      ⟨k.isBlanks_afterColon, by simp⟩, k.arrow, _, rfl, k.isArrowHead, k.paren, k.isParen, rfl⟩
    · simp [KeyHead.text]
    · simp

end Pattern

namespace Line

/-- By default every text can be tested for a key, and the test holds exactly when the trimmed text
is the head of a key line with anything after it. -/
theorem isKey_iff_keyHead {config : Config}
    (h : config.keyPattern = .text Config.defaultKeyPattern) (line : Line) :
    ∃ found, isKey config line = .ok found ∧
      (found = true ↔ ∃ (k : KeyHead) (rest : List Char), Text.trim line = k.text ++ rest) := by
  have hforgetful : Pattern.keyForm.isForgetful = true := rfl
  have hanswer : isKey config line =
      .ok (Pattern.keyForm.outcome (Text.trim line)).isMatched := by
    rw [isKey, keyPattern_of_default h]
    exact matchesStart_keyForm (Text.trim line)
  refine ⟨_, hanswer, ?_⟩
  simp only [Pattern.isMatched_outcome_iff hforgetful, Pattern.fits_keyForm]
  constructor
  · rintro ⟨_, rest, htext, k, rfl⟩
    exact ⟨k, rest, htext⟩
  · rintro ⟨k, rest, htext⟩
    exact ⟨k.text, rest, htext, k, rfl⟩

/-- A head with unlike quotation marks, parentheses in the parameters and a blank that is no ASCII
character. -/
def quotedArrow : KeyHead where
  opening := ['\'']
  name := ['0', '%']
  closing := ['"']
  beforeColon := [' ']
  afterColon := []
  arrow := "(a, (b)) =>\u00a0".toList
  paren := ['(']
  isQuoteMark_opening := .inr (.inl rfl)
  isKeyName := ⟨by decide, by rw [List.forall_mem_cons, List.forall_mem_singleton]; decide⟩
  isQuoteMark_closing := .inr (.inr rfl)
  isBlanks_beforeColon := by decide
  isBlanks_afterColon := by decide
  isArrowHead := .inr ⟨"a, (b)".toList, [' '], ['\u00a0'], by decide, by decide, by decide, rfl⟩
  isParen := .inr rfl

theorem isKey_iff_keyHead_quotedArrow :
    ({} : Config).keyPattern = .text Config.defaultKeyPattern ∧
      isKey {} "\t'0%\" :(a, (b)) =>\u00a0(\x7b // b\u2028".toList = .ok true := by
  have hdefault : ({} : Config).keyPattern = .text Config.defaultKeyPattern := rfl
  refine ⟨hdefault, ?_⟩
  obtain ⟨found, hfound, hiff⟩ := isKey_iff_keyHead hdefault
    "\t'0%\" :(a, (b)) =>\u00a0(\x7b // b\u2028".toList
  rw [hfound, hiff.mpr ⟨quotedArrow, " // b".toList, by decide +kernel⟩]

end Line

end Foldline
