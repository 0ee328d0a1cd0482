import Foldline.Pattern.Reader

/-! # What a pattern's text explains

A reader of patterns stops at the first fault. Most faults say that the text is malformed. The
others are limits, and each of them can be pointed at in the text: a count in braces, flags for the
whole pattern, a look-behind, more opening parentheses than there are levels. The readers are
followed from state to state with triples: where the precondition holds, a fault is one that the
text explains, and otherwise the postcondition holds at the end.

## Implementation notes

A state is described by the characters right before the part that is not read yet. A reader that
takes characters moves them there, so that what a few readers in a row have taken is one piece of
the text. -/

namespace Foldline.Pattern

/-- The text of bounds in braces. -/
def boundsText (least : List Char) (most : Option (List Char)) : List Char :=
  ['\x7b'] ++ least ++ most.elim [] (',' :: ·) ++ ['\x7d']

/-- Digits that stand in the text as a bound in braces. -/
def IsCount (source digits : List Char) : Prop :=
  (∀ c ∈ digits, c.isDigit = true) ∧
    ∃ least most, boundsText least most <:+: source ∧ (digits = least ∨ most = some digits)

/-- A flag that the text sets for the whole pattern, alone or among others. -/
def SetsFlag (source : List Char) (c : Char) : Prop :=
  ∃ letters, c ∈ letters ∧ (∀ d ∈ letters, (Flags.ofLetter? d).isSome = true) ∧
    ['(', '?'] ++ letters ++ [')'] <:+: source

/-- The opening of a look-behind stands in the text. -/
def LooksBehind (source : List Char) : Prop :=
  ['(', '?', '<', '='] <:+: source ∨ ['(', '?', '<', '!'] <:+: source

/-- Where the text breaks a limit, with room for a number of levels of groups; a malformed text
breaks none. -/
def Exceeds (levels : Nat) (source : List Char) : Error → Prop
  | .malformed _ _ => False
  | .repetitionTooLarge =>
      ∃ digits, IsCount source digits ∧ Reader.countLimit ≤ Reader.numberIn 10 digits
  | .tooManyDigits count =>
      ∃ digits, IsCount source digits ∧ digits.length = count ∧ Text.Numeral.maxDigits < count
  | .clashingCharacterSets => SetsFlag source 'a' ∧ SetsFlag source 'u'
  | .lookbehindTooFar => LooksBehind source
  | .tooDeep => levels < source.count '('

/-- A fault that the text explains. -/
def Explained (levels : Nat) (source : List Char) (e : Error) : Prop :=
  e.isMalformed = true ∨ Exceeds levels source e

namespace Reader

variable {levels spare : Nat} {source before : List Char} {α β : Type}

/-- A character set that flags choose is set in the text. -/
structure AreSet (source : List Char) (flags : Flags) : Prop where
  ascii : flags.ascii = true → SetsFlag source 'a'
  unicode : flags.unicode = true → SetsFlag source 'u'

theorem AreSet.union {a b : Flags} (ha : AreSet source a) (hb : AreSet source b) :
    AreSet source (a.union b) where
  ascii h := (Bool.or_eq_true_iff.mp h).elim ha.ascii hb.ascii
  unicode h := (Bool.or_eq_true_iff.mp h).elim ha.unicode hb.unicode

/-- A state right after the characters `before`. Of the opening parentheses that are taken, one
stands for each level that is gone down, and `spare` others are left. -/
structure At (levels spare : Nat) (source before : List Char) (s : Progress) : Prop where
  unread : before ++ s.rest.flatMap Token.text <:+: source
  flags : AreSet source s.flags
  opened : levels + spare + (s.rest.flatMap Token.text).count '(' ≤ s.levels + source.count '('

namespace At

variable {s : Progress}

/-- What was taken first can be forgotten. -/
theorem drop (earlier : List Char) (h : At levels spare source (earlier ++ before) s) :
    At levels spare source before s := by
  refine ⟨List.IsInfix.trans ?_ h.unread, h.flags, h.opened⟩
  rw [List.append_assoc]
  exact (List.suffix_append _ _).isInfix

theorem start (h : At levels spare source before s) : At levels spare source [] s :=
  drop before (by rwa [List.append_nil])

theorem isInfix (h : At levels spare source before s) : before <:+: source :=
  (List.prefix_append _ _).isInfix.trans h.unread

/-- Parentheses that are left need not be made use of. -/
theorem lower {extra : Nat} (h : At levels (spare + extra) source before s) :
    At levels spare source before s :=
  ⟨h.unread, h.flags, by have := h.opened; omega⟩

end At

/-- Started where `P` holds, a reader fails only with a fault that the text explains, and otherwise
ends where `Q` holds of its result. -/
def Triple (levels : Nat) (source : List Char) (P : Progress → Prop) (m : Reader α)
    (Q : α → Progress → Prop) : Prop :=
  ∀ s, P s →
    (∀ e, m s = .error e → Explained levels source e) ∧ ∀ a s', m s = .ok (a, s') → Q a s'

/-- A reader of which no more has to be known than that it stays in the text. -/
abbrev Runs (levels spare : Nat) (source before : List Char) (m : Reader α) : Prop :=
  Triple levels source (At levels spare source before) m fun _ => At levels spare source []

namespace Triple

variable {P : Progress → Prop} {m : Reader α} {Q : α → Progress → Prop} {R : β → Progress → Prop}

/-- A reader that does not fail. -/
theorem of_run (h : ∀ s, P s → ∃ a s', m s = .ok (a, s') ∧ Q a s') :
    Triple levels source P m Q := by
  intro s hs
  obtain ⟨a, s', hrun, hQ⟩ := h s hs
  constructor
  · intro e he
    rw [hrun] at he
    cases he
  · intro b t hb
    rw [hrun] at hb
    cases hb
    exact hQ

theorem pure {a : α} (h : ∀ s, P s → Q a s) : Triple levels source P (pure a) Q :=
  of_run fun s hs => ⟨a, s, rfl, h s hs⟩

theorem ret {a : α} : Triple levels source P (Pure.pure a) fun _ => P :=
  pure fun _ hs => hs

theorem throw {e : Error} (h : ∀ s, P s → Explained levels source e) :
    Triple levels source P (throw e : Reader α) Q := by
  intro s hs
  constructor
  · intro e' he
    cases he
    exact h s hs
  · intro b s' hb
    cases hb

theorem bind {f : α → Reader β} (hm : Triple levels source P m Q)
    (hf : ∀ a, Triple levels source (Q a) (f a) R) : Triple levels source P (m >>= f) R := by
  intro s hs
  obtain ⟨herror, hok⟩ := hm s hs
  have hrun : (m >>= f) s = (m s).bind fun p => f p.1 p.2 := rfl
  cases h : m s with
  | error e =>
      rw [hrun, h]
      constructor
      · intro e' he
        cases he
        exact herror e h
      · intro b s' hb
        cases hb
  | ok p =>
      rw [hrun, h]
      exact hf p.1 p.2 (hok p.1 p.2 h)

theorem weaken {P' : Progress → Prop} {Q' : α → Progress → Prop} (hm : Triple levels source P m Q)
    (hP : ∀ s, P' s → P s) (hQ : ∀ a s, Q a s → Q' a s) : Triple levels source P' m Q' := by
  intro s hs
  obtain ⟨herror, hok⟩ := hm s (hP s hs)
  exact ⟨herror, fun a s' h => hQ a s' (hok a s' h)⟩

/-- A fact that does not hang on the state can be used for the rest of the run. -/
theorem of_fact {φ : Prop} (h : φ → Triple levels source P m Q) :
    Triple levels source (fun s => φ ∧ P s) m Q :=
  fun s hs => h hs.1 s hs.2

theorem bind_fact {φ : α → Prop} {S : α → Progress → Prop} {f : α → Reader β}
    (hm : Triple levels source P m fun a s => φ a ∧ S a s)
    (hf : ∀ a, φ a → Triple levels source (S a) (f a) R) :
    Triple levels source P (m >>= f) R :=
  bind hm fun a => of_fact (hf a)

theorem ite {c : Prop} [Decidable c] {m' : Reader α} (h : c → Triple levels source P m Q)
    (h' : ¬ c → Triple levels source P m' Q) : Triple levels source P (if c then m else m') Q := by
  split
  · exact h ‹_›
  · exact h' ‹_›

/-- Two ways to a result, and one way on from it. -/
theorem ite_bind {c : Prop} [Decidable c] {m' : Reader α} {f : α → Reader β}
    (h : c → Triple levels source P m Q) (h' : ¬ c → Triple levels source P m' Q)
    (hf : ∀ a, Triple levels source (Q a) (f a) R) :
    Triple levels source P (if c then m >>= f else m' >>= f) R :=
  ite (fun hc => bind (h hc) hf) fun hc => bind (h' hc) hf

/-- A reader that looks at the state, of which the precondition holds. -/
theorem inspect {f : Progress → Reader β} (h : ∀ s, P s → Triple levels source P (f s) R) :
    Triple levels source P (get >>= f) R :=
  fun s hs => h s hs s hs

theorem set {s : Progress} {Q : PUnit → Progress → Prop} (h : Q ⟨⟩ s) :
    Triple levels source P (set s : Reader PUnit) Q :=
  of_run fun _ _ => ⟨⟨⟩, s, rfl, h⟩

theorem modify {f : Progress → Progress} {Q : PUnit → Progress → Prop}
    (h : ∀ s, P s → Q ⟨⟩ (f s)) : Triple levels source P (modify f : Reader PUnit) Q :=
  of_run fun s hs => ⟨⟨⟩, f s, rfl, h s hs⟩

theorem failAt {problem : Problem} {n : Nat} :
    Triple levels source P (failAt problem n : Reader α) Q :=
  inspect fun _ _ => throw fun _ _ => .inl rfl

theorem fail {problem : Problem} {n : Nat} :
    Triple levels source P (fail problem n : Reader α) Q :=
  inspect fun _ _ => throw fun _ _ => .inl rfl

/-- Nothing comes after a reader that always fails. -/
theorem stop_bind {f : α → Reader β} (hm : Triple levels source P m fun _ _ => False) :
    Triple levels source P (m >>= f) R :=
  bind hm fun _ _ hs => hs.elim

/-- A check that may report a problem, and then the rest of the run. -/
theorem check {c : Prop} [Decidable c] {problem : Problem} {n : Nat} {f : PUnit → Reader α}
    (h : Triple levels source P m Q) :
    Triple levels source P (if c then Reader.fail problem n >>= f else m) Q :=
  ite (fun _ => stop_bind fail) fun _ => h

end Triple

/-! ## Moving through the text -/

section

variable {P : Progress → Prop}

theorem triple_position : Triple levels source P position fun _ => P :=
  .inspect fun _ _ => .ret

theorem triple_remaining : Triple levels source P remaining fun _ => P :=
  .inspect fun _ _ => .ret

theorem triple_checkNext : Triple levels source P checkNext fun _ => P :=
  .inspect fun _ _ => .ite (fun _ => .failAt) fun _ => .ret

end

theorem triple_peek :
    Triple levels source (At levels spare source before) peek
      fun t s => s.rest.head? = t ∧ At levels spare source before s :=
  .of_run fun s hs => ⟨_, s, rfl, rfl, hs⟩

/-- The next token, if there is one, is taken, with the parenthesis that it may be. -/
theorem triple_take {t : Option Token} :
    Triple levels source (fun s => s.rest.head? = t ∧ At levels spare source before s) advance
      fun _ => At levels (spare + (t.elim [] Token.text).count '(') source
        (before ++ t.elim [] Token.text) := by
  refine .inspect ?_
  rintro s ⟨rfl, hs⟩
  split
  case h_1 hrest =>
    refine .pure fun s' hs' => ?_
    rw [hrest, List.head?_nil, Option.elim_none, List.append_nil]
    exact hs'.2
  case h_2 u rest hrest =>
    refine .bind (.set ?_) fun _ => triple_checkNext
    have hunread := hs.unread
    have hopened := hs.opened
    rw [hrest, List.flatMap_cons, ← List.append_assoc] at hunread
    rw [hrest, List.flatMap_cons, List.count_append] at hopened
    rw [hrest]
    refine ⟨hunread, hs.flags, ?_⟩
    change levels + (spare + u.text.count '(') + (rest.flatMap Token.text).count '(' ≤
      s.levels + source.count '('
    omega

theorem triple_advance {t : Option Token} :
    Triple levels source (fun s => s.rest.head? = t ∧ At levels spare source before s) advance
      fun _ => At levels spare source (before ++ t.elim [] Token.text) :=
  .weaken triple_take (fun _ hs => hs) fun _ _ hs => hs.lower

theorem triple_next :
    Triple levels source (At levels spare source before) next
      fun t => At levels spare source (before ++ t.elim [] Token.text) :=
  .bind triple_peek fun _ => .bind triple_advance fun _ => .pure fun _ hs => hs

theorem triple_accept {c : Char} :
    Triple levels source (At levels spare source before) (accept c)
      fun taken => At levels spare source (before ++ if taken then [c] else []) := by
  refine .bind triple_peek fun t => .ite (fun ht => ?_) fun _ => ?_
  · rw [eq_of_beq ht]
    exact .bind triple_advance fun _ => .pure fun _ hs => hs
  · refine .pure fun _ hs => ?_
    rw [if_neg Bool.false_ne_true, List.append_nil]
    exact hs.2

/-- The characters that are taken have the property, and stand in the text one after the other. -/
theorem triple_takeWhile {p : Char → Bool} {n : Nat} :
    Triple levels source (At levels spare source before) (takeWhile p n)
      fun taken s => (∀ c ∈ taken, p c = true) ∧ At levels spare source (before ++ taken) s := by
  have hnone : ∀ {before : List Char} {s : Progress}, At levels spare source before s →
      (∀ c ∈ [], p c = true) ∧ At levels spare source (before ++ []) s := fun hs =>
    ⟨List.forall_mem_nil _, by rw [List.append_nil]; exact hs⟩
  induction n generalizing before with
  | zero => exact .pure fun _ hs => hnone hs
  | succ n ih =>
      refine .bind triple_peek fun t => ?_
      split
      case h_1 c =>
        refine .ite (fun hc => ?_) fun _ => .pure fun _ hs => hnone hs.2
        refine .bind triple_advance fun _ => .bind ih fun taken => .pure fun s hs => ?_
        refine ⟨List.forall_mem_cons.mpr ⟨hc, hs.1⟩, ?_⟩
        rw [← List.singleton_append, ← List.append_assoc]
        exact hs.2
      case h_2 => exact .pure fun _ hs => hnone hs.2

theorem runs_takeWhile {p : Char → Bool} {n : Nat} :
    Runs levels spare source before (takeWhile p n) :=
  .weaken triple_takeWhile (fun _ hs => hs) fun _ _ hs => hs.2.start

theorem runs_accept {c : Char} : Runs levels spare source before (accept c) :=
  .weaken triple_accept (fun _ hs => hs) fun _ _ hs => hs.start

theorem runs_next : Runs levels spare source before next :=
  .weaken triple_next (fun _ hs => hs) fun _ _ hs => hs.start

theorem runs_nameUntil {mark : Char} {what : String} {n : Nat} {name : List Char} :
    Runs levels spare source before (nameUntil mark what n name) := by
  induction n generalizing before name with
  | zero => exact .fail
  | succ n ih =>
      refine .bind runs_next fun t => ?_
      split
      · exact .ite (fun _ => .fail) fun _ => .fail
      · exact .ite (fun _ => .ite (fun _ => .fail) fun _ => .ret) fun _ => ih

/-! ## Escapes and character sets -/

theorem runs_hexEscape {letter : Char} {count : Nat} :
    Runs levels spare source before (hexEscape letter count) :=
  .bind runs_takeWhile fun _ => .check <| .check .ret

theorem runs_namedEscape : Runs levels spare source before namedEscape := by
  refine .bind runs_accept fun _ => .check <| .bind triple_remaining fun _ =>
    .bind runs_nameUntil fun name => ?_
  split
  · exact .ret
  · exact .fail

theorem runs_selfEscape {c : Char} : Runs levels spare source before (selfEscape c) :=
  .check <| .pure fun _ hs => hs.start

theorem runs_setEscape {c : Char} : Runs levels spare source before (setEscape c) := by
  unfold setEscape
  split
  · exact .pure fun _ hs => hs.start
  · exact .pure fun _ hs => hs.start
  · refine .ite (fun _ => .bind runs_hexEscape fun _ => .ret) fun _ => ?_
    refine .ite (fun _ => .bind runs_hexEscape fun _ => .ret) fun _ => ?_
    refine .ite (fun _ => .bind runs_hexEscape fun _ => .ret) fun _ => ?_
    refine .ite (fun _ => .bind runs_namedEscape fun _ => .ret) fun _ => ?_
    refine .ite (fun _ => .bind runs_takeWhile fun _ => .check .ret) fun _ => ?_
    refine .ite (fun _ => .fail) fun _ => ?_
    exact .bind runs_selfEscape fun _ => .ret

theorem runs_setMember {t : Token} : Runs levels spare source before (setMember t) := by
  cases t with
  | plain c => exact .pure fun _ hs => hs.start
  | escaped c => exact runs_setEscape

theorem runs_setRange {low high : SetItem} {lowToken highToken : Token} :
    Runs levels spare source before (setRange low high lowToken highToken) := by
  unfold setRange
  split
  · exact .ite (fun _ => .fail) fun _ => .pure fun _ hs => hs.start
  · exact .fail

theorem runs_setItems {start n : Nat} {items : List SetItem} :
    Runs levels spare source before (setItems start n items) := by
  induction n generalizing before items with
  | zero => exact .failAt
  | succ n ih =>
      refine .bind runs_next fun t => ?_
      split
      · exact .failAt
      · refine .ite (fun _ => .ret) fun _ => ?_
        refine .bind runs_setMember fun low => .bind runs_accept fun _ => ?_
        refine .ite (fun _ => .bind runs_next fun u => ?_) fun _ => ih
        split
        · exact .failAt
        · exact .ite (fun _ => .ret) fun _ =>
            .bind runs_setMember fun _ => .bind runs_setRange fun _ => ih

/-! ## Expressions and the look-behinds in them -/

/-- A look-behind that goes back too far has its opening in the text. -/
def IsFounded (source : List Char) (e : Expression) : Prop :=
  e.looksTooFarBack = true → LooksBehind source

theorem isFounded_of_eq_false {e : Expression} (h : e.looksTooFarBack = false) :
    IsFounded source e :=
  fun h' => absurd h' (by rw [h]; exact Bool.false_ne_true)

/-- A reader whose results have the property `φ`. -/
abbrev Gives (levels spare : Nat) (source before : List Char) (φ : α → Prop) (m : Reader α) :
    Prop :=
  Triple levels source (At levels spare source before) m
    fun a s => φ a ∧ At levels spare source [] s

/-- A level is gone down at the expense of a parenthesis that is left, so a text that has no more of
them than there are levels gets by. -/
theorem gives_nested {φ : α → Prop} {content : Reader α}
    (h : Gives levels 0 source before φ content) :
    Gives levels 1 source before φ (nested content) := by
  refine .inspect fun s hs => ?_
  have hopened := hs.opened
  split
  case h_1 hnone => exact .throw fun _ _ => .inr (by change levels < _; omega)
  case h_2 left hleft =>
    refine .bind (.set ⟨hs.unread, hs.flags, ?_⟩) fun _ => .bind_fact h fun a ha =>
      .bind (.modify fun t ht => ⟨ht.unread, ht.flags, ?_⟩) fun _ => .pure fun _ ht => ⟨ha, ht⟩
    · change levels + 0 + (s.rest.flatMap Token.text).count '(' ≤ left + source.count '('
      omega
    · have := ht.opened
      change levels + 1 + (t.rest.flatMap Token.text).count '(' ≤
        t.levels + 1 + source.count '('
      omega

theorem gives_charSet : Gives levels spare source before (IsFounded source) charSet := by
  refine .bind triple_position fun _ => .bind runs_accept fun _ => .bind triple_remaining fun _ =>
    .bind runs_setItems fun items => ?_
  split
  · exact .pure fun _ hs => ⟨isFounded_of_eq_false rfl, hs⟩
  · exact .pure fun _ hs => ⟨isFounded_of_eq_false rfl, hs⟩

section

variable {P : Progress → Prop} {group : Nat}

theorem triple_isClosed : Triple levels source P (isClosed group) fun _ => P :=
  .inspect fun _ _ => .ret

theorem triple_checkLookbehind : Triple levels source P (checkLookbehind group) fun _ => P := by
  refine .inspect fun s _ => ?_
  split
  · exact .ret
  · exact .bind triple_isClosed fun _ => .check <| .ite (fun _ => .fail) fun _ => .ret

end

theorem gives_groupReference {group length : Nat} :
    Gives levels spare source before (IsFounded source) (groupReference group length) :=
  .inspect fun _ _ => .check <| .bind triple_isClosed fun _ => .check <|
    .bind triple_checkLookbehind fun _ => .pure fun _ hs => ⟨isFounded_of_eq_false rfl, hs.start⟩

theorem gives_digitEscape {c : Char} :
    Gives levels spare source before (IsFounded source) (digitEscape c) := by
  refine .bind runs_takeWhile fun ds => ?_
  split
  · exact gives_groupReference
  · refine .ite (fun _ => .bind runs_takeWhile fun es => ?_) fun _ => gives_groupReference
    split
    · exact gives_groupReference
    · exact .check <| .pure fun _ hs => ⟨isFounded_of_eq_false rfl, hs⟩

theorem gives_escape {c : Char} :
    Gives levels spare source before (IsFounded source) (escape c) := by
  have hleaf : ∀ {e : Expression} {s : Progress} {before : List Char}, e.looksTooFarBack = false →
      At levels spare source before s → IsFounded source e ∧ At levels spare source [] s :=
    fun he hs => ⟨isFounded_of_eq_false he, hs.start⟩
  unfold escape
  split
  · exact .pure fun _ => hleaf rfl
  · exact .pure fun _ => hleaf rfl
  · exact .pure fun _ => hleaf rfl
  · refine .ite (fun _ => .bind runs_hexEscape fun _ => .pure fun _ => hleaf rfl) fun _ => ?_
    refine .ite (fun _ => .bind runs_hexEscape fun _ => .pure fun _ => hleaf rfl) fun _ => ?_
    refine .ite (fun _ => .bind runs_hexEscape fun _ => .pure fun _ => hleaf rfl) fun _ => ?_
    refine .ite (fun _ => .bind runs_namedEscape fun _ => .pure fun _ => hleaf rfl) fun _ => ?_
    refine .ite (fun _ => .bind runs_takeWhile fun _ => .pure fun _ => hleaf rfl) fun _ => ?_
    refine .ite (fun _ => gives_digitEscape) fun _ => ?_
    exact .bind runs_selfEscape fun _ => .pure fun _ => hleaf rfl

/-! ## Bounds in braces -/

/-- A count breaks a limit only if it is written in the text. -/
theorem runs_countOf {digits : List Char} (h : IsCount source digits) :
    Runs levels spare source before (countOf digits) := by
  refine .ite (fun hlong => ?_) fun _ => .ite (fun hlarge => ?_) fun _ => .pure fun _ hs => hs.start
  · exact .stop_bind (.throw fun _ _ => .inr ⟨digits, h, rfl, hlong⟩)
  · exact .stop_bind (.throw fun _ _ => .inr ⟨digits, h, hlarge⟩)

/-- The digits between the braces, and what they are taken for: a single count is both bounds. -/
def AreBounds (levels spare : Nat) (source least most : List Char) (s : Progress) : Prop :=
  (∀ c ∈ least, c.isDigit = true) ∧ (∀ c ∈ most, c.isDigit = true) ∧
    ∃ written : Option (List Char), (most = least ∨ written = some most) ∧
      At levels spare source (['\x7b'] ++ least ++ written.elim [] (',' :: ·)) s

/-- Once the closing brace is taken, the bounds stand in the text. -/
theorem triple_closeBounds {least most : List Char} :
    Triple levels source (AreBounds levels spare source least most) (accept '\x7d') fun closed s =>
      (closed = true → IsCount source least ∧ IsCount source most) ∧
        At levels spare source [] s := by
  rintro s ⟨hleast, hmost, written, hwritten, hs⟩
  refine Triple.weaken triple_accept (fun _ h => h) (fun closed s' hs' => ⟨?_, hs'.start⟩) s hs
  intro hclosed
  have hbounds : boundsText least written <:+: source := by
    simpa [boundsText, hclosed] using hs'.isInfix
  have hcount : IsCount source least := ⟨hleast, least, written, hbounds, .inl rfl⟩
  refine ⟨hcount, ?_⟩
  rcases hwritten with rfl | hwritten
  · exact hcount
  · exact ⟨hmost, least, written, hbounds, .inr hwritten⟩

theorem runs_bounds? : Runs levels spare source ['\x7b'] bounds? := by
  refine .bind triple_peek fun _ => .ite (fun _ => .pure fun _ hs => hs.2.start) fun _ => ?_
  refine .inspect fun s₀ h₀ => .bind triple_remaining fun _ => ?_
  refine .weaken (.bind triple_takeWhile fun least => ?_) (fun _ hs => hs.2) fun _ _ hs => hs
  refine .of_fact fun hleast => .bind triple_accept fun comma => ?_
  -- what comes after the digits is the same with a comma and without
  extract_lets close
  have hclose : ∀ most, Triple levels source (AreBounds levels spare source least most) (close most)
      fun _ => At levels spare source [] := by
    intro most
    refine .bind triple_closeBounds fun closed => .of_fact fun hcounts => .ite (fun _ => ?_) ?_
    · -- without a closing brace these are no bounds, and the digits are given back
      exact .bind (.set h₀.2.start) fun _ => .ret
    intro hclosed
    obtain ⟨hcount, hcount'⟩ := hcounts (by simpa using hclosed)
    refine .ite_bind (fun _ => .ret) (fun _ => runs_countOf hcount) fun low => ?_
    exact .ite (fun _ => .ret) fun _ => .bind (runs_countOf hcount') fun _ =>
      .ite (fun _ => .stop_bind .failAt) fun _ => .ret
  refine .ite (fun hcomma => .bind triple_remaining fun _ => .bind ?_ hclose) fun hcomma =>
    .bind (.pure fun s hs => ?_) hclose
  · refine .weaken triple_takeWhile (fun _ hs => hs) fun most s hs => ?_
    refine ⟨hleast, hs.1, some most, .inr rfl, ?_⟩
    simpa [hcomma] using hs.2
  · refine ⟨hleast, hleast, none, .inl rfl, ?_⟩
    simpa [hcomma] using hs

/-! ## Openings of groups -/

theorem runs_skipLine {n : Nat} : Runs levels spare source before (skipLine n) := by
  induction n generalizing before with
  | zero => exact .pure fun _ hs => hs.start
  | succ n ih =>
      refine .bind runs_next fun t => ?_
      split
      · exact .ret
      · exact .ite (fun _ => .ret) fun _ => ih

theorem runs_skipComment {start n : Nat} :
    Runs levels spare source before (skipComment start n) := by
  induction n generalizing before with
  | zero => exact .failAt
  | succ n ih =>
      refine .bind triple_peek fun t => ?_
      split
      · exact .failAt
      · exact .bind triple_advance fun _ => .ite (fun _ => .pure fun _ hs => hs.start) fun _ => ih

theorem triple_checkName {P : Progress → Prop} {name : List Char} :
    Triple levels source P (checkName name) fun _ => P :=
  .ite (fun _ => .fail) fun _ => .ret

theorem triple_groupNamed {P : Progress → Prop} {name : List Char} :
    Triple levels source P (groupNamed name) fun _ => P := by
  refine .inspect fun s _ => ?_
  split
  · exact .ret
  · exact .fail

/-- Letters of flags, with the character set that they choose among them. -/
structure AreLetters (letters : List Char) (on : Flags) : Prop where
  flags : ∀ d ∈ letters, (Flags.ofLetter? d).isSome = true
  ascii : on.ascii = true → 'a' ∈ letters
  unicode : on.unicode = true → 'u' ∈ letters

theorem ascii_ofLetter? {c : Char} (h : ((Flags.ofLetter? c).getD {}).ascii = true) : c = 'a' := by
  unfold Flags.ofLetter? at h
  split at h <;> simp_all

theorem unicode_ofLetter? {c : Char} (h : ((Flags.ofLetter? c).getD {}).unicode = true) :
    c = 'u' := by
  unfold Flags.ofLetter? at h
  split at h <;> simp_all

/-- A flag can be added whose letter is among the letters. -/
theorem AreLetters.union {letters : List Char} {on : Flags} {c : Char} (h : AreLetters letters on)
    (hc : c ∈ letters) : AreLetters letters (on.union ((Flags.ofLetter? c).getD {})) where
  flags := h.flags
  ascii hascii := by
    rcases Bool.or_eq_true_iff.mp hascii with hon | hflag
    · exact h.ascii hon
    · exact ascii_ofLetter? hflag ▸ hc
  unicode hunicode := by
    rcases Bool.or_eq_true_iff.mp hunicode with hon | hflag
    · exact h.unicode hon
    · exact unicode_ofLetter? hflag ▸ hc

theorem AreLetters.append {letters : List Char} {on : Flags} {d : Char} (h : AreLetters letters on)
    (hd : (Flags.ofLetter? d).isSome = true) : AreLetters (letters ++ [d]) on where
  flags := List.forall_mem_append.mpr ⟨h.flags, List.forall_mem_singleton.mpr hd⟩
  ascii hascii := List.mem_append_left _ (h.ascii hascii)
  unicode hunicode := List.mem_append_left _ (h.unicode hunicode)

theorem AreLetters.areSet {letters : List Char} {on : Flags} (h : AreLetters letters on)
    (hwritten : ['(', '?'] ++ letters ++ [')'] <:+: source) : AreSet source on where
  ascii hascii := ⟨letters, h.ascii hascii, h.flags, hwritten⟩
  unicode hunicode := ⟨letters, h.unicode hunicode, h.flags, hwritten⟩

/-- Letters are collected one by one; a closing parenthesis makes them flags for the whole
pattern. -/
theorem gives_flagsOn {n : Nat} {on : Flags} {c : Char} {letters : List Char}
    (h : AreLetters letters on) (hc : c ∈ letters) :
    Gives levels spare source (['(', '?'] ++ letters) (fun r => r.2 = ')' → AreSet source r.1)
      (flagsOn n on c) := by
  -- the letters read so far stand right before the unread part, with the current one among them
  induction n generalizing on c letters with
  | zero => exact .fail
  | succ n ih =>
      refine .check <| .check <| .bind triple_next fun t => ?_
      split
      · exact .fail
      · split
        · rename_i d
          refine .ite (fun _ => .pure fun s hs => ⟨fun hd => ?_, hs.start⟩) fun _ =>
            .ite (fun hd => ?_) fun _ => .fail
          · subst hd
            exact (h.union hc).areSet hs.isInfix
          · exact .weaken (ih ((h.union hc).append hd) (List.mem_append_right _ List.mem_cons_self))
              (fun _ hs => by rw [← List.append_assoc]; exact hs) fun _ _ hs => hs
        · exact .fail

theorem runs_flagsOff {n : Nat} {off : Flags} {c : Char} :
    Runs levels spare source before (flagsOff n off c) := by
  induction n generalizing before off c with
  | zero => exact .fail
  | succ n ih =>
      refine .check <| .bind runs_next fun t => ?_
      split
      · exact .fail
      · split
        · exact .ite (fun _ => .ret) fun _ => .ite (fun _ => ih) fun _ => .fail
        · exact .fail

theorem runs_groupFlags? {c : Char} (hc : c ≠ '-' → (Flags.ofLetter? c).isSome = true) :
    Runs levels spare source ['(', '?', c] (groupFlags? c) := by
  have hfirst : c ≠ '-' → AreLetters [c] {} := fun hdash =>
    ⟨List.forall_mem_singleton.mpr (hc hdash), fun h => absurd h Bool.false_ne_true,
      fun h => absurd h Bool.false_ne_true⟩
  refine .bind triple_remaining fun n => .ite_bind
    (Q := fun r s => (r.2 = ')' → AreSet source r.1) ∧ At levels spare source [] s)
    (fun _ => .pure fun s hs => ⟨fun h => absurd h (by decide), hs.start⟩)
    (fun hdash => gives_flagsOn (hfirst (by simpa using hdash)) List.mem_cons_self) ?_
  rintro ⟨on, after⟩
  refine .of_fact fun hset => .ite (fun hafter => ?_) fun _ => .check ?_
  · have hon : AreSet source on := hset (eq_of_beq hafter)
    exact .bind (.modify fun s hs => ⟨hs.unread, hs.flags.union hon, hs.opened⟩) fun _ => .ret
  extract_lets last
  have hlast : ∀ off, Runs levels spare source [] (last off) := fun off =>
    .check <| .check .ret
  refine .ite (fun _ => .bind runs_next fun t => ?_) fun _ => .bind .ret hlast
  split
  · exact .stop_bind .fail
  · exact .stop_bind .fail
  · exact .ite_bind (fun _ => runs_flagsOff) (fun _ => .fail) hlast

theorem runs_openGroup {name : Option (List Char)} :
    Runs levels spare source before (openGroup name) := by
  refine .inspect fun s hs => ?_
  split
  · exact .bind (.set ⟨hs.start.unread, hs.flags, hs.opened⟩) fun _ => .ret
  · split
    · exact .stop_bind .fail
    · exact .bind (.set ⟨hs.start.unread, hs.flags, hs.opened⟩) fun _ => .ret

theorem triple_groupWidths {P : Progress → Prop} : Triple levels source P groupWidths fun _ => P :=
  .inspect fun _ _ => .ret

theorem runs_closeGroup {group : Nat} {body : Expression} :
    Runs levels spare source before (closeGroup group body) :=
  .bind triple_groupWidths fun _ =>
    .modify fun _ hs => ⟨hs.start.unread, hs.flags, hs.opened⟩

theorem runs_expectClose {start : Nat} : Runs levels spare source before (expectClose start) :=
  .bind runs_accept fun _ => .ite (fun _ => .failAt) fun _ => .ret

theorem runs_conditionGroup : Runs levels spare source before conditionGroup := by
  refine .bind triple_remaining fun _ => .bind runs_nameUntil fun name =>
    .ite (fun _ => triple_groupNamed) fun _ => ?_
  split
  · exact .fail
  · refine .check <| .check <| .check <| .bind triple_position fun _ =>
      .bind (.modify fun s hs => ?_) fun _ => .ret
    split
    · exact hs
    · exact ⟨hs.unread, hs.flags, hs.opened⟩

/-- An opening of a look-behind is taken from the text, and a part has none that is too far. -/
def Opening.IsFounded (source : List Char) : Opening → Prop
  | .item part => Reader.IsFounded source part
  | .look backward _ => backward = true → LooksBehind source
  | _ => True

theorem gives_opening {atStart : Bool} {start : Nat} :
    Gives levels spare source ['('] (Opening.IsFounded source) (opening atStart start) := by
  refine .bind triple_accept fun mark => .ite (fun _ => .pure fun _ hs => ⟨trivial, hs.start⟩)
    fun hmark => ?_
  obtain rfl : mark = true := by simpa using hmark
  refine .bind triple_next fun t => ?_
  rcases t with _ | c | c
  · exact .fail
  · refine .ite (fun _ => ?named) fun _ => ?_
    case named =>
      -- a group with a name, a reference by name, or neither
      refine .bind runs_accept fun _ => .ite (fun _ => ?_) fun _ => .bind runs_accept fun _ =>
        .ite (fun _ => ?_) fun _ => .bind runs_next fun u => ?_
      · exact .bind triple_remaining fun _ => .bind runs_nameUntil fun _ =>
          .bind triple_checkName fun _ => .pure fun _ hs => ⟨trivial, hs⟩
      · exact .bind triple_remaining fun _ => .bind runs_nameUntil fun _ =>
          .bind triple_checkName fun _ => .bind triple_groupNamed fun _ =>
          .bind triple_isClosed fun _ => .check <| .bind triple_checkLookbehind fun _ =>
          .pure fun _ hs => ⟨isFounded_of_eq_false rfl, hs⟩
      · cases u with
        | none => exact .fail
        | some u => exact .fail
    refine .ite (fun _ => .pure fun _ hs => ⟨trivial, hs.start⟩) fun _ => ?_
    refine .ite (fun _ => .bind triple_remaining fun _ => .bind runs_skipComment fun _ =>
      .pure fun _ hs => ⟨trivial, hs⟩) fun _ => ?_
    refine .ite (fun _ => .pure fun _ hs => ⟨fun h => absurd h Bool.false_ne_true, hs.start⟩)
      fun _ => ?_
    refine .ite (fun _ => .pure fun _ hs => ⟨fun h => absurd h Bool.false_ne_true, hs.start⟩)
      fun _ => ?_
    refine .ite (fun hc => ?behind) fun _ => ?_
    case behind =>
      -- here the opening of a look-behind is complete
      obtain rfl := eq_of_beq hc
      refine .bind triple_next fun u => ?_
      cases u with
      | none => exact .fail
      | some u =>
          refine .ite (fun hu => .pure fun s hs => ⟨fun _ => .inl ?_, hs.start⟩) fun _ =>
            .ite (fun hu => .pure fun s hs => ⟨fun _ => .inr ?_, hs.start⟩) fun _ => .fail
          · obtain rfl := eq_of_beq hu
            exact hs.isInfix
          · obtain rfl := eq_of_beq hu
            exact hs.isInfix
    refine .ite (fun _ => .pure fun _ hs => ⟨trivial, hs.start⟩) fun _ => ?_
    refine .ite (fun _ => .pure fun _ hs => ⟨trivial, hs.start⟩) fun _ => ?_
    refine .ite (fun hc => ?_) fun _ => .fail
    refine .bind (runs_groupFlags? fun hdash => ?_) fun r => ?_
    · simpa [hdash] using hc
    · rcases r with _ | ⟨on, off⟩
      · exact .ite (fun _ => .stop_bind .failAt) fun _ => .pure fun _ hs => ⟨trivial, hs⟩
      · exact .pure fun _ hs => ⟨trivial, hs⟩
  · exact .fail

end Reader
end Foldline.Pattern
