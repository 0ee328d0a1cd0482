import Foldline.Proofs.LineKind
import Foldline.Source.SizeLimit

/-! # Numerals of the limit on file sizes

The environment can give the limit as a numeral: digits from 0 to 9, with single low lines between
some of them, a plus sign or none in front, and spaces, tabs or line ends around it. Such a numeral
is read as the number that its digits stand for, as long as it does not have too many of them. A
limit that is not positive is refused, and so is any text that is no numeral. -/

namespace Foldline

namespace Text.Numeral

/-- Digits are written with single low lines between some of them. -/
inductive Written : List Char → List Char → Prop where
  | last (c : Char) : Written [c] [c]
  | next (c : Char) {digits text : List Char} (hrest : Written digits text) :
      Written (c :: digits) (c :: text)
  | gap (c : Char) {digits text : List Char} (hrest : Written digits text) :
      Written (c :: digits) (c :: '_' :: text)

/-- Characters that may stand around a numeral. -/
def IsSpace (c : Char) : Prop := c = ' ' ∨ c = '\t' ∨ c = '\n' ∨ c = '\r'

/-- Characters that a numeral of digits from 0 to 9 is made of. -/
def IsMark (c : Char) : Prop := c.isDigit = true ∨ c = '_' ∨ c = '+' ∨ c = '-'

section

variable {c e : Char} {digits text rest s front back : List Char}

/-- A digit from 0 to 9 has its own value. -/
theorem digitValue?_of_isDigit (hc : c.isDigit = true) :
    digitValue? c = some (c.toNat - '0'.toNat) := by
  have hrange : 48 ≤ c.toNat ∧ c.toNat ≤ 57 := Char.isDigit_iff_toNat.mp hc
  have hfirst : zeros.find? (fun z => z ≤ c.toNat && c.toNat < z + 10) = some 48 := by
    rw [zeros, List.find?_cons_of_pos]
    simp
    omega
  rw [digitValue?, hfirst]
  rfl

theorem digitRun_gap (hc : c.isDigit = true) :
    digitRun (c :: '_' :: rest) = (digitRun rest).map ((c.toNat - '0'.toNat) :: ·) := by
  simp only [digitRun, digitValue?_of_isDigit hc]

theorem digitRun_next (hc : c.isDigit = true) (he : e ≠ '_') :
    digitRun (c :: e :: rest) = (digitRun (e :: rest)).map ((c.toNat - '0'.toNat) :: ·) := by
  rw [digitRun, digitValue?_of_isDigit hc]
  dsimp only
  split
  · rename_i heq
    cases heq
  · rename_i heq
    cases heq
    exact absurd rfl he
  · rename_i heq
    cases heq
    rfl

theorem isDigit_ne_lowLine (hc : c.isDigit = true) : c ≠ '_' := by
  rintro rfl
  cases hc

/-- A written numeral starts with its first digit. -/
theorem Written.exists_cons (h : Written digits text) :
    ∃ c rest, text = c :: rest ∧ c ∈ digits := by
  cases h with
  | last c => exact ⟨c, [], rfl, List.mem_cons_self⟩
  | next c hrest => exact ⟨c, _, rfl, List.mem_cons_self⟩
  | gap c hrest => exact ⟨c, _, rfl, List.mem_cons_self⟩

/-- The digits of a written numeral are found again. -/
theorem digitRun_of_written (h : Written digits text) (hdigits : ∀ c ∈ digits, c.isDigit = true) :
    digitRun text = some (digits.map fun c => c.toNat - '0'.toNat) := by
  induction h with
  | last c => simp [digitRun, digitValue?_of_isDigit (hdigits c List.mem_cons_self)]
  | next c hrest ih =>
      obtain ⟨hc, hothers⟩ := List.forall_mem_cons.mp hdigits
      obtain ⟨e, more, rfl, he⟩ := hrest.exists_cons
      rw [digitRun_next hc (isDigit_ne_lowLine (hothers e he)), ih hothers]
      rfl
  | gap c hrest ih =>
      obtain ⟨hc, hothers⟩ := List.forall_mem_cons.mp hdigits
      rw [digitRun_gap hc, ih hothers]
      rfl

/-- A numeral is refused for the number of its digits, and else stands for what they stand for. -/
theorem magnitude?_of_written (h : Written digits text)
    (hdigits : ∀ c ∈ digits, c.isDigit = true) :
    magnitude? text =
      if digits.length ≤ maxDigits then some (Nat.ofDigitChars 10 digits 0) else none := by
  have hvalue : value (digits.map fun c => c.toNat - '0'.toNat) = Nat.ofDigitChars 10 digits 0 := by
    rw [value, List.foldl_map]
    rfl
  simp only [magnitude?, digitRun_of_written h hdigits, List.length_map, hvalue]

/-- Digits and low lines are all there is in a written numeral. -/
theorem Written.isMark (h : Written digits text) (hdigits : ∀ c ∈ digits, c.isDigit = true) :
    ∀ c ∈ text, IsMark c := by
  induction h with
  | last c =>
      intro e he
      exact .inl (hdigits e he)
  | next c hrest ih =>
      obtain ⟨hc, hothers⟩ := List.forall_mem_cons.mp hdigits
      exact List.forall_mem_cons.mpr ⟨.inl hc, ih hothers⟩
  | gap c hrest ih =>
      obtain ⟨hc, hothers⟩ := List.forall_mem_cons.mp hdigits
      exact List.forall_mem_cons.mpr
        ⟨.inl hc, List.forall_mem_cons.mpr ⟨.inr (.inl rfl), ih hothers⟩⟩

theorem IsSpace.isOuterBlank (hc : IsSpace c) : isOuterBlank c = true := by
  rcases hc with rfl | rfl | rfl | rfl <;> decide

theorem IsMark.isOuterBlank (hc : IsMark c) : isOuterBlank c = false := by
  rcases hc with hc | rfl | rfl | rfl
  · have hrange : 48 ≤ c.toNat ∧ c.toNat ≤ 57 := Char.isDigit_iff_toNat.mp hc
    have hspace : c ≠ ' ' := by
      rintro rfl
      cases hc
    simp [Numeral.isOuterBlank, isAsciiBlank, hspace]
    omega
  · decide
  · decide
  · decide

/-- What stands around a numeral is trimmed off. -/
theorem trimmed_pad (hfront : ∀ c ∈ front, IsSpace c) (hs : ∀ c ∈ s, IsMark c)
    (hback : ∀ c ∈ back, IsSpace c) : trimmed (front ++ s ++ back) = s := by
  rw [trimmed,
    trimBy_pad (fun c hc => (hfront c hc).isOuterBlank) fun c hc => (hback c hc).isOuterBlank]
  exact trimBy_of_forall_not fun c hc => (hs c hc).isOuterBlank

/-- The integer that a number stands for after a sign or after none. -/
def signed (sign : List Char) (n : Nat) : Int := if sign = ['-'] then -(n : Int) else n

/-- A written numeral is read with a sign or without one. -/
theorem read?_written (h : Written digits text) (hdigits : ∀ c ∈ digits, c.isDigit = true)
    (hfront : ∀ c ∈ front, IsSpace c) (hback : ∀ c ∈ back, IsSpace c) {sign : List Char}
    (hsign : sign ∈ [[], ['+'], ['-']]) :
    read? (front ++ (sign ++ text) ++ back) = (magnitude? text).map (signed sign) := by
  have hmarks : ∀ c ∈ sign ++ text, IsMark c := by
    intro c hc
    rcases List.mem_append.mp hc with hc | hc
    · simp only [List.mem_cons, List.not_mem_nil, or_false] at hsign
      rcases hsign with rfl | rfl | rfl
      · cases hc
      · exact .inr (.inr (.inl (List.mem_singleton.mp hc)))
      · exact .inr (.inr (.inr (List.mem_singleton.mp hc)))
    · exact h.isMark hdigits c hc
  rw [read?, trimmed_pad hfront hmarks hback]
  simp only [List.mem_cons, List.not_mem_nil, or_false] at hsign
  rcases hsign with rfl | rfl | rfl
  · -- Without a sign the text starts with a digit, which is no sign.
    obtain ⟨c, rest, rfl, hc⟩ := h.exists_cons
    have hdigit := hdigits c hc
    rw [List.nil_append]
    split
    · rename_i heq
      cases heq
      cases hdigit
    · rename_i heq
      cases heq
      cases hdigit
    · cases magnitude? (c :: rest) <;> rfl
  · simp only [List.singleton_append]
    cases magnitude? text <;> rfl
  · simp only [List.singleton_append]
    cases magnitude? text <;> rfl

end

end Text.Numeral

namespace Source

open Text.Numeral (Written IsSpace)

/-- The limit on file sizes when the environment sets it to a text. -/
def sizeLimitUnder (h : Host) (default : Int) (text : List Char) : Except SizeLimitError Int :=
  sizeLimit { h with sizeLimit := some (String.ofList text) } default

variable {h : Host} {default : Int} {text : List Char}

theorem sizeLimitUnder_of_none (hread : Text.Numeral.read? text = none) :
    sizeLimitUnder h default text = .error (.notAnInteger (String.ofList text)) := by
  simp only [sizeLimitUnder, sizeLimit, readSizeLimit, String.toList_ofList, hread]

theorem sizeLimitUnder_of_some {n : Int} (hread : Text.Numeral.read? text = some n) :
    sizeLimitUnder h default text = if n ≤ 0 then .error (.notPositive n) else .ok n := by
  simp only [sizeLimitUnder, sizeLimit, readSizeLimit, String.toList_ofList, hread]

/-- Whatever text the environment sets and whatever the default is, there is a positive limit or the
text is refused. -/
theorem sizeLimitUnder_cases (h : Host) (default : Int) (text : List Char) :
    (∃ n, 0 < n ∧ sizeLimitUnder h default text = .ok n) ∨
      sizeLimitUnder h default text = .error (.notAnInteger (String.ofList text)) ∨
      ∃ n ≤ 0, sizeLimitUnder h default text = .error (.notPositive n) := by
  cases hread : Text.Numeral.read? text with
  | none => exact .inr (.inl (sizeLimitUnder_of_none hread))
  | some n =>
      rw [sizeLimitUnder_of_some hread]
      by_cases hn : n ≤ 0
      · exact .inr (.inr ⟨n, hn, if_pos hn⟩)
      · exact .inl ⟨n, Int.not_le.mp hn, if_neg hn⟩

/-- Whatever text the environment sets and whatever the default is, there is a positive limit or the
text is refused. A numeral of a positive number with at most 4300 digits gives this number, with a
plus sign or without; with a minus sign it is refused. With more digits it is always refused. -/
theorem sizeLimit_numeral (h : Host) (default : Int) :
    (∀ text, (∃ n, 0 < n ∧ sizeLimitUnder h default text = .ok n) ∨
      sizeLimitUnder h default text = .error (.notAnInteger (String.ofList text)) ∨
      ∃ n ≤ 0, sizeLimitUnder h default text = .error (.notPositive n)) ∧
    ∀ digits text front back, Written digits text → (∀ c ∈ digits, c.isDigit = true) →
      (∀ c ∈ front, IsSpace c) → (∀ c ∈ back, IsSpace c) →
        (∀ n : Nat, 0 < n → Nat.ofDigitChars 10 digits 0 = n → digits.length ≤ 4300 →
          (∀ sign ∈ [[], ['+']],
            sizeLimitUnder h default (front ++ (sign ++ text) ++ back) = .ok n) ∧
          sizeLimitUnder h default (front ++ (['-'] ++ text) ++ back) =
            .error (.notPositive (-n))) ∧
        (4300 < digits.length → ∀ sign ∈ [[], ['+'], ['-']],
          sizeLimitUnder h default (front ++ (sign ++ text) ++ back) =
            .error (.notAnInteger (String.ofList (front ++ (sign ++ text) ++ back)))) := by
  refine ⟨sizeLimitUnder_cases h default, ?_⟩
  intro digits text front back hwritten hdigits hfront hback
  have hread : ∀ sign ∈ [[], ['+'], ['-']], Text.Numeral.read? (front ++ (sign ++ text) ++ back) =
      (Text.Numeral.magnitude? text).map (Text.Numeral.signed sign) :=
    fun sign hsign => Text.Numeral.read?_written hwritten hdigits hfront hback hsign
  have hmagnitude := Text.Numeral.magnitude?_of_written hwritten hdigits
  have hmax : Text.Numeral.maxDigits = 4300 := rfl
  rw [hmax] at hmagnitude
  constructor
  · intro n hpos hn hlength
    rw [if_pos hlength, hn] at hmagnitude
    simp only [hmagnitude, Option.map_some] at hread
    constructor
    · intro sign hsign
      have hplus : Text.Numeral.signed sign n = n := by
        rw [Text.Numeral.signed, if_neg]
        rintro rfl
        simp at hsign
      have hsome := hread sign (List.mem_append_left [['-']] hsign)
      rw [sizeLimitUnder_of_some hsome, hplus, if_neg (by omega)]
    · have hminus : Text.Numeral.signed ['-'] n = -(n : Int) := rfl
      rw [sizeLimitUnder_of_some (hread ['-'] (by simp)), hminus, if_pos (by omega)]
  · intro hlength sign hsign
    rw [if_neg (Nat.not_le.mpr hlength)] at hmagnitude
    apply sizeLimitUnder_of_none
    rw [hread sign hsign, hmagnitude]
    rfl

/-- A host with nothing on it. -/
def emptyHost : Host where
  tree := {}
  current := []

/-- A numeral with leading zeros, low lines, a sign and spaces. -/
theorem sizeLimit_numeral_spaced :
    Written "0042".toList "0_04_2".toList ∧
      sizeLimitUnder emptyHost 7 "\t +0_04_2\n".toList = .ok 42 ∧
      sizeLimitUnder emptyHost 7 "\t -0_04_2\n".toList = .error (.notPositive (-42)) := by
  have hwritten : Written "0042".toList "0_04_2".toList :=
    .gap '0' (.next '0' (.gap '4' (.last '2')))
  have hdigits : ∀ c ∈ "0042".toList, c.isDigit = true := by simp
  have hfront : ∀ c ∈ "\t ".toList, IsSpace c := by simp [IsSpace]
  have hback : ∀ c ∈ "\n".toList, IsSpace c := by simp [IsSpace]
  obtain ⟨-, hnumeral⟩ := sizeLimit_numeral emptyHost 7
  obtain ⟨hplus, hminus⟩ := (hnumeral _ _ _ _ hwritten hdigits hfront hback).1 42 (by decide)
    (by decide) (by decide)
  exact ⟨hwritten, hplus ['+'] (by simp), hminus⟩

end Source

end Foldline
