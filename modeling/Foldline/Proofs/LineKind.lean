import Foldline.Line
import Foldline.Proofs.Settings
import Mathlib.Data.List.TakeWhile

/-! # The tests of a line

What the tests behind the kind of a line say in terms of the characters of the line. The tests read
their settings as collections of texts; on a tuple of texts they never fail. -/

namespace Foldline

namespace Text

/-- One text occurs in another as a row of characters in a place. -/
theorem occursIn_eq_true_iff {part s : List Char} : occursIn part s = true ↔ part <:+: s := by
  induction s with
  | nil => simp [occursIn]
  | cons c rest ih => simp [occursIn, ih, List.infix_cons_iff]

/-- Trimming leaves nothing of a text exactly when it is all blanks. -/
theorem trim_eq_nil_iff {s : List Char} : trim s = [] ↔ ∀ c ∈ s, isBlank c = true := by
  simp only [trim, trimBy, List.reverse_eq_nil_iff, List.dropWhile_eq_nil_iff, List.mem_reverse]
  constructor
  · intro h c hc
    rw [← List.takeWhile_append_dropWhile (p := isBlank) (l := s), List.mem_append] at hc
    rcases hc with hc | hc
    · exact List.mem_takeWhile_imp hc
    · exact h c hc
  · exact fun h c hc => h c (List.dropWhile_subset _ hc)

section

variable {p : Char → Bool} {front s back : List Char}

/-- Characters that are trimmed off make no difference at both ends. -/
theorem trimBy_pad (hfront : ∀ c ∈ front, p c = true) (hback : ∀ c ∈ back, p c = true) :
    trimBy p (front ++ s ++ back) = trimBy p s := by
  unfold trimBy
  rw [List.append_assoc, List.dropWhile_append_of_pos hfront, List.dropWhile_append]
  split
  · rename_i hs
    have hnone : s.dropWhile p = [] := List.isEmpty_iff.mp hs
    rw [hnone, List.dropWhile_eq_nil_iff.mpr hback]
  · have hreverse : ∀ c ∈ back.reverse, p c = true := by
      intro c hc
      exact hback c (List.mem_reverse.mp hc)
    rw [List.reverse_append, List.dropWhile_append_of_pos hreverse]

/-- A text without such characters is left as it is. -/
theorem trimBy_of_forall_not (hs : ∀ c ∈ s, p c = false) : trimBy p s = s := by
  have hwhole : ∀ l : List Char, (∀ c ∈ l, p c = false) → l.dropWhile p = l := by
    intro l hl
    cases l with
    | nil => rfl
    | cons c rest => rw [List.dropWhile_cons_of_neg (by simp [hl c List.mem_cons_self])]
  rw [trimBy, hwhole s hs, hwhole s.reverse fun c hc => hs c (List.mem_reverse.mp hc),
    List.reverse_reverse]

end

end Text

namespace Line

theorem isBlank_eq_true_iff {line : Line} :
    line.isBlank = true ↔ ∀ c ∈ line, Text.isBlank c = true := by
  rw [isBlank, beq_iff_eq, Text.trim_eq_nil_iff]

/-- A line that holds a token which is not blank is not blank itself. -/
theorem isBlank_of_occursIn {token line : Line} (h : Text.occursIn token line = true)
    (ht : token.isBlank = false) : line.isBlank = false := by
  rw [← Bool.not_eq_true, isBlank_eq_true_iff] at ht ⊢
  intro hline
  exact ht fun c hc => hline c ((Text.occursIn_eq_true_iff.mp h).subset hc)

variable {config : Config} {line : Line}

/-- The tests behind the kind of a line, one after the other. -/
theorem kind_eq (config : Config) (line : Line) :
    kind config line =
      if line.isBlank then .ok .blank
      else isMarker config line >>= fun marker =>
        if marker then .ok .marker
        else isTerminator config line >>= fun terminator =>
          if terminator then .ok .terminator
          else isKey config line >>= fun key =>
            .ok (if key && !line.closesBody then .key else .other) := by
  cases hb : line.isBlank with
  | true => simp [kind, hb, pure, Except.pure]
  | false =>
      cases hm : isMarker config line with
      | error e => simp [kind, hb, hm, bind, Except.bind]
      | ok marker =>
          cases marker with
          | true => simp [kind, hb, hm, bind, Except.bind, pure, Except.pure]
          | false =>
              cases ht : isTerminator config line with
              | error e => simp [kind, hb, hm, ht, bind, Except.bind]
              | ok terminator =>
                  cases hk : isKey config line <;> cases terminator <;>
                    simp [kind, hb, hm, ht, hk, bind, Except.bind, pure, Except.pure, apply_ite]

/-- How a line comes to be of a kind: the first test that holds decides. -/
theorem kind_eq_ok_iff {k : Kind} :
    kind config line = .ok k ↔
      line.isBlank = true ∧ k = .blank ∨
      line.isBlank = false ∧ isMarker config line = .ok true ∧ k = .marker ∨
      line.isBlank = false ∧ isMarker config line = .ok false ∧
        isTerminator config line = .ok true ∧ k = .terminator ∨
      line.isBlank = false ∧ isMarker config line = .ok false ∧
        isTerminator config line = .ok false ∧
        ∃ key, isKey config line = .ok key ∧
          k = if key && !line.closesBody then .key else .other := by
  rw [kind_eq]
  cases line.isBlank with
  | true => simp [@eq_comm Kind .blank]
  | false =>
      simp only [Bool.false_eq_true, if_false, Stages.bind_eq_ok_iff, false_and, false_or,
        true_and]
      constructor
      · rintro ⟨marker, hm, h⟩
        cases marker with
        | true => exact .inl ⟨hm, (Except.ok.inj h).symm⟩
        | false =>
            simp only [Bool.false_eq_true, if_false, Stages.bind_eq_ok_iff] at h
            obtain ⟨terminator, ht, h⟩ := h
            cases terminator with
            | true => exact .inr (.inl ⟨hm, ht, (Except.ok.inj h).symm⟩)
            | false =>
                simp only [Bool.false_eq_true, if_false, Stages.bind_eq_ok_iff,
                  Except.ok.injEq] at h
                obtain ⟨key, hk, h⟩ := h
                exact .inr (.inr ⟨hm, ht, key, hk, h.symm⟩)
      · rintro (⟨hm, rfl⟩ | ⟨hm, ht, rfl⟩ | ⟨hm, ht, key, hk, rfl⟩)
        · exact ⟨true, hm, rfl⟩
        · exact ⟨false, hm, by simp [ht, bind, Except.bind]⟩
        · exact ⟨false, hm, by simp [ht, hk, bind, Except.bind]⟩

/-- Only a blank line is of kind blank. -/
theorem kind_eq_blank_iff (config : Config) {line : Line} :
    kind config line = .ok .blank ↔ line.isBlank = true := by
  rw [kind_eq_ok_iff]
  constructor
  · rintro (⟨hb, -⟩ | ⟨-, -, h⟩ | ⟨-, -, -, h⟩ | ⟨-, -, -, key, -, h⟩)
    · exact hb
    · cases h
    · cases h
    · split at h <;> cases h
  · exact fun hb => .inl ⟨hb, rfl⟩

/-- A line is of kind marker when it is not blank and holds a marker token. -/
theorem kind_eq_marker_iff :
    kind config line = .ok .marker ↔ line.isBlank = false ∧ isMarker config line = .ok true := by
  rw [kind_eq_ok_iff]
  constructor
  · rintro (⟨-, h⟩ | ⟨hb, hm, -⟩ | ⟨-, -, -, h⟩ | ⟨-, -, -, key, -, h⟩)
    · cases h
    · exact ⟨hb, hm⟩
    · cases h
    · split at h <;> cases h
  · exact fun ⟨hb, hm⟩ => .inr (.inl ⟨hb, hm, rfl⟩)

/-- On texts, a test of the members is a plain search. -/
theorem someMember_texts {test : Value → Except Fault Bool} {p : String → Bool}
    (h : ∀ t, test (.text t) = .ok (p t)) (tokens : List String) :
    someMember test (tokens.map .text) = .ok (tokens.any p) := by
  induction tokens with
  | nil => rfl
  | cons t rest ih => cases hp : p t <;> simp [someMember, h, hp, ih]

/-- With texts as tokens, a line holds a marker when one of the texts occurs in it. -/
theorem isMarker_of_texts {tokens : List String} (h : config.markerTokens = .texts tokens) :
    isMarker config line = .ok (tokens.any fun t => Text.occursIn t.toList line) := by
  rw [isMarker, h]
  exact someMember_texts (fun _ => rfl) tokens

/-- With texts as beginnings, a text starts with a member when it starts with one of the texts. -/
theorem startsWith_texts (text : List Char) (tokens : List String) :
    someMemberOf (.texts tokens) (startsWith text) =
      .ok (tokens.any fun t => t.toList.isPrefixOf text) :=
  someMember_texts (fun _ => rfl) tokens

theorem holdsText?_texts (text : List Char) (tokens : List String) :
    (Value.texts tokens).holdsText? text = some (tokens.any fun t => t == String.ofList text) := by
  simp only [Value.texts, Value.holdsText?, List.any_map]
  rfl

/-- A search through members that can all be tested gives an answer. -/
theorem exists_someMember {test : Value → Except Fault Bool} {members : List Value}
    (h : ∀ v ∈ members, ∃ found, test v = .ok found) :
    ∃ found, someMember test members = .ok found := by
  induction members with
  | nil => exact ⟨false, rfl⟩
  | cons v rest ih =>
      obtain ⟨found, hfound⟩ := h v (by simp)
      rw [someMember, hfound]
      cases found with
      | true => exact ⟨true, rfl⟩
      | false => exact ih fun v hv => h v (by simp [hv])

/-- A search that finds nothing has tested all members. -/
theorem eq_false_of_someMember {test : Value → Except Fault Bool} {members : List Value}
    (h : someMember test members = .ok false) : ∀ v ∈ members, test v = .ok false := by
  induction members with
  | nil => simp
  | cons v rest ih =>
      rw [someMember] at h
      split at h
      · cases h
      · rename_i hv
        rw [List.forall_mem_cons]
        exact ⟨hv, ih h⟩
      · cases h

/-- A line that turns out to hold no marker token shows that all tokens are texts, so that they can
be looked for in every line. -/
theorem exists_isMarker_of_eq_false (h : isMarker config line = .ok false) (other : Line) :
    ∃ found, isMarker config other = .ok found := by
  rw [isMarker, someMemberOf] at h ⊢
  split at h
  · apply exists_someMember
    intro v hv
    have htest := eq_false_of_someMember h v hv
    cases v with
    | text token => exact ⟨_, rfl⟩
    | _ => cases htest
  · cases h

/-- A key line holds no marker token. -/
theorem isMarker_of_kind_key (h : kind config line = .ok .key) :
    isMarker config line = .ok false := by
  rcases kind_eq_ok_iff.mp h with ⟨-, hk⟩ | ⟨-, -, hk⟩ | ⟨-, -, -, hk⟩ | ⟨-, hm, -, -⟩
  · cases hk
  · cases hk
  · cases hk
  · exact hm

/-- Whether a marker token is found in a line. -/
def findsMarker (config : Config) (line : Line) : Bool :=
  (isMarker config line).toOption == some true

theorem isMarker_eq_findsMarker (h : ∃ found, isMarker config line = .ok found) :
    isMarker config line = .ok (findsMarker config line) := by
  obtain ⟨found, hfound⟩ := h
  cases found <;> simp [findsMarker, hfound, Except.toOption]

/-- A collection that counts as absent has no members. -/
theorem members?_of_absent {v : Value} {members : List Value} (h : v.isPresent = false)
    (hm : v.members? = some members) : members = [] := by
  cases v <;> simp_all [Value.isPresent, Value.members?]

/-- Trying the pattern of key lines on a text always gives an answer. -/
def PatternIsTotal (config : Config) : Prop :=
  ∀ p, keyPattern config = .ok p → ∀ text, ∃ found, matchesStart p text = .ok found

theorem isKey_of_isSound (line : Line) (hs : config.IsSound) (hp : PatternIsTotal config) :
    ∃ key, isKey config line = .ok key := by
  obtain ⟨source, p, -, hsource, hread⟩ := hs.keyPattern
  have hpattern : keyPattern config = .ok p := by simp [keyPattern, hsource, Pattern.read, hread]
  obtain ⟨found, hfound⟩ := hp p hpattern (Text.trim line)
  exact ⟨found, by simp [isKey, hpattern, hfound]⟩

/-- Sound prefixes can be tried on a text if they are a collection at all. -/
theorem startsWith_of_isSound (hs : config.IsSound) {members : List Value}
    (hm : config.terminatorPrefixes.members? = some members) (text : List Char) :
    ∃ found, someMemberOf config.terminatorPrefixes (startsWith text) = .ok found := by
  cases hpresent : config.terminatorPrefixes.isPresent with
  | true =>
      obtain ⟨tokens, -, -, htokens⟩ := hs.terminatorPrefixes hpresent
      exact ⟨_, htokens ▸ startsWith_texts text tokens⟩
  | false =>
      obtain rfl := members?_of_absent hpresent hm
      exact ⟨false, by simp [someMemberOf, hm, someMember]⟩

/-- Under sound settings a line is tested for a terminator without a fault exactly when it is a
terminator token, so that the prefixes are not looked at, or the prefixes are a collection. -/
theorem isTerminator_defined_iff (hs : config.IsSound) :
    (∃ found, isTerminator config line = .ok found) ↔
      config.terminatorTokens.holdsText? (Text.trim line) = some true ∨
        config.terminatorPrefixes.members?.isSome = true := by
  obtain ⟨tokens, -, -, htokens⟩ := hs.terminatorTokens
  rw [isTerminator, htokens, holdsText?_texts]
  cases tokens.any fun t => t == String.ofList (Text.trim line) with
  | true => simp
  | false =>
      cases hm : config.terminatorPrefixes.members? with
      | none => simp [someMemberOf, hm]
      | some members => simpa using startsWith_of_isSound hs hm (Text.trim line)

/-- Under sound settings and with a total pattern, a line has a kind exactly when it is settled
before the prefixes are looked at, or the prefixes are a collection. -/
theorem kind_defined_iff (hs : config.IsSound) (hp : PatternIsTotal config) :
    (∃ k, kind config line = .ok k) ↔
      config.terminatorPrefixes.members?.isSome = true ∨ line.isBlank = true ∨
        isMarker config line = .ok true ∨
          config.terminatorTokens.holdsText? (Text.trim line) = some true := by
  constructor
  · rintro ⟨k, hk⟩
    rcases kind_eq_ok_iff.mp hk with ⟨hb, -⟩ | ⟨-, hm, -⟩ | ⟨-, -, ht, -⟩ | ⟨-, -, ht, -⟩
    · exact .inr (.inl hb)
    · exact .inr (.inr (.inl hm))
    · rcases (isTerminator_defined_iff hs).mp ⟨_, ht⟩ with h | h
      · exact .inr (.inr (.inr h))
      · exact .inl h
    · rcases (isTerminator_defined_iff hs).mp ⟨_, ht⟩ with h | h
      · exact .inr (.inr (.inr h))
      · exact .inl h
  · intro h
    cases hb : line.isBlank with
    | true => exact ⟨.blank, kind_eq_ok_iff.mpr (.inl ⟨hb, rfl⟩)⟩
    | false =>
        obtain ⟨tokens, -, -, htokens⟩ := hs.markerTokens
        obtain ⟨marker, hm⟩ : ∃ marker, isMarker config line = .ok marker :=
          ⟨_, isMarker_of_texts htokens⟩
        cases marker with
        | true => exact ⟨.marker, kind_eq_marker_iff.mpr ⟨hb, hm⟩⟩
        | false =>
            have hdefined : config.terminatorTokens.holdsText? (Text.trim line) = some true ∨
                config.terminatorPrefixes.members?.isSome = true := by
              simp only [hb, hm, Bool.false_eq_true, Except.ok.injEq, false_or] at h
              exact h.symm
            obtain ⟨terminator, ht⟩ := (isTerminator_defined_iff hs).mpr hdefined
            obtain ⟨key, hkey⟩ := isKey_of_isSound line hs hp
            cases terminator with
            | true => exact ⟨.terminator, kind_eq_ok_iff.mpr (.inr (.inr (.inl ⟨hb, hm, ht, rfl⟩)))⟩
            | false =>
                exact ⟨_, kind_eq_ok_iff.mpr (.inr (.inr (.inr ⟨hb, hm, ht, key, hkey, rfl⟩)))⟩

end Line

end Foldline
