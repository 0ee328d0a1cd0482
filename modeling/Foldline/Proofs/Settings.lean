import Foldline.Config.Search

/-! # Settings that pass the check

The check of settings is a row of stages, and settings pass it exactly when they pass each stage.
`IsSoundWithin` says what this means for the values. Settings that come out of a search are in
normal form and pass the check.

## Implementation notes

The optional prefixes are looked at only when their value counts as present. A value that does not
count as present can be of any kind, so soundness says nothing about it. -/

namespace Foldline

namespace Stages

variable {ε ε' α β : Type}

/-- Two stages succeed when the first one does, and the second one with what the first one gives. -/
theorem bind_eq_ok_iff {x : Except ε α} {f : α → Except ε β} {b : β} :
    (x >>= f) = .ok b ↔ ∃ a, x = .ok a ∧ f a = .ok b := by
  cases x <;> simp [bind, Except.bind]

/-- A stage that gives nothing succeeds before another one when both succeed. -/
theorem seq_eq_ok_iff {x : Except ε Unit} {y : Except ε β} {b : β} :
    (x >>= fun _ => y) = .ok b ↔ x = .ok () ∧ y = .ok b := by
  rw [bind_eq_ok_iff]
  exact ⟨fun ⟨(), hx, hy⟩ => ⟨hx, hy⟩, fun ⟨hx, hy⟩ => ⟨(), hx, hy⟩⟩

@[simp] theorem mapError_ok {a : α} {f : ε → ε'} : (Except.ok a).mapError f = .ok a := rfl

@[simp] theorem mapError_error {e : ε} {f : ε → ε'} :
    (Except.error e : Except ε α).mapError f = .error (f e) := rfl

theorem mapError_eq_ok_iff {x : Except ε α} {f : ε → ε'} {a : α} :
    x.mapError f = .ok a ↔ x = .ok a := by
  cases x <;> simp

theorem map_eq_ok_iff {x : Except ε α} {f : α → β} {b : β} :
    x.map f = .ok b ↔ ∃ a, x = .ok a ∧ f a = b := by
  cases x <;> simp [Except.map]

theorem map_eq_error_iff {x : Except ε α} {f : α → β} {e : ε} :
    x.map f = .error e ↔ x = .error e := by
  cases x <;> simp [Except.map]

/-- A result that is seen by leaving the error out is the result. -/
theorem eq_ok_of_toOption {x : Except ε α} {a : α} (h : x.toOption = some a) : x = .ok a := by
  cases x <;> simp_all [Except.toOption]

theorem exists_eq_ok_of_any {x : Except ε α} {p : α → Bool} (h : x.toOption.any p = true) :
    ∃ a, x = .ok a ∧ p a = true := by
  cases x <;> simp_all [Except.toOption]

end Stages

/-- Texts, at least one, and none of them empty. -/
def Value.IsTokens (v : Value) : Prop :=
  ∃ tokens : List String, tokens ≠ [] ∧ (∀ t ∈ tokens, t ≠ "") ∧ v = .texts tokens

namespace Config

theorem isNonEmptyText_eq_true_iff {v : Value} :
    isNonEmptyText v = true ↔ ∃ t : String, t ≠ "" ∧ v = .text t := by
  cases v <;> simp [isNonEmptyText]

theorem all_isNonEmptyText_iff {items : List Value} :
    items.all isNonEmptyText = true ↔
      ∃ tokens : List String, (∀ t ∈ tokens, t ≠ "") ∧ items = tokens.map .text := by
  induction items with
  | nil => exact ⟨fun _ => ⟨[], by simp⟩, fun _ => rfl⟩
  | cons v rest ih =>
      rw [List.all_cons, Bool.and_eq_true, isNonEmptyText_eq_true_iff, ih]
      constructor
      · rintro ⟨⟨t, ht, rfl⟩, tokens, hall, rfl⟩
        exact ⟨t :: tokens, by simpa using ⟨ht, hall⟩, rfl⟩
      · rintro ⟨tokens, hall, heq⟩
        cases tokens with
        | nil => simp at heq
        | cons t tokens =>
            obtain ⟨rfl, rfl⟩ := List.cons.inj heq
            exact ⟨⟨t, hall t (by simp), rfl⟩, tokens, fun u hu => hall u (by simp [hu]), rfl⟩

theorem checkTokens_eq_ok_iff {field : Field} {v : Value} :
    checkTokens field v = .ok () ↔ v.IsTokens := by
  unfold checkTokens Value.IsTokens
  split
  · rename_i item rest
    have hif : (if (item :: rest).all isNonEmptyText = true then Except.ok ()
        else .error (Error.badToken field)) = .ok () ↔
          (item :: rest).all isNonEmptyText = true := by
      split <;> simp_all
    rw [hif, all_isNonEmptyText_iff]
    constructor
    · rintro ⟨tokens, hall, heq⟩
      refine ⟨tokens, ?_, hall, by rw [heq, Value.texts]⟩
      rintro rfl
      simp at heq
    · rintro ⟨tokens, -, hall, heq⟩
      exact ⟨tokens, hall, Value.tuple.inj heq⟩
  · rename_i hno
    simp only [reduceCtorEq, false_iff]
    rintro ⟨tokens, hne, -, rfl⟩
    cases tokens with
    | nil => exact hne rfl
    | cons t rest => exact hno _ _ rfl

theorem checkPattern_eq_ok_iff {levels : Nat} {v : Value} :
    checkPattern levels v = .ok () ↔ ∃ source p, source ≠ "" ∧ v = .text source ∧
      Pattern.readWithin levels source.toList = .ok p := by
  cases v with
  | text source =>
      by_cases he : source = ""
      · subst he
        have hempty : checkPattern levels (.text "") = .error (.refused .patternNotText) := by
          simp [checkPattern]
        simp only [hempty, reduceCtorEq, false_iff]
        rintro ⟨source, p, hne, heq, -⟩
        cases heq
        exact hne rfl
      · have hread : checkPattern levels (.text source) = .ok () ↔
            ∃ p, Pattern.readWithin levels source.toList = .ok p := by
          cases hr : Pattern.readWithin levels source.toList with
          | ok p => simp [checkPattern, he, hr]
          | error e => simp [checkPattern, he, hr]
        rw [hread]
        constructor
        · rintro ⟨p, hp⟩
          exact ⟨source, p, he, rfl, hp⟩
        · rintro ⟨source', p, -, heq, hp⟩
          cases heq
          exact ⟨p, hp⟩
  | _ => simp [checkPattern]

/-- Of texts, none is without a dot in front exactly when all start with one. -/
theorem dotless?_eq_none_iff {tokens : List String} :
    dotless? (tokens.map .text) = none ↔ ∀ t ∈ tokens, ['.'] <+: t.toList := by
  induction tokens with
  | nil => simp [dotless?]
  | cons t rest ih =>
      simp only [List.map_cons, dotless?, List.mem_cons, forall_eq_or_imp]
      by_cases hp : ['.'].isPrefixOf t.toList = true
      · rw [if_pos hp, ih]
        simp [List.isPrefixOf_iff_prefix.mp hp]
      · rw [if_neg hp]
        simp only [reduceCtorEq, false_iff, not_and]
        exact fun h => absurd (List.isPrefixOf_iff_prefix.mpr h) hp

theorem checkExtensions_eq_ok_iff {v : Value} :
    checkExtensions v = .ok () ↔
      ∃ tokens : List String, tokens ≠ [] ∧ (∀ t ∈ tokens, ['.'] <+: t.toList) ∧
        v = .texts tokens := by
  unfold checkExtensions
  rw [Stages.seq_eq_ok_iff, checkTokens_eq_ok_iff]
  constructor
  · rintro ⟨⟨tokens, hne, -, rfl⟩, hdots⟩
    refine ⟨tokens, hne, dotless?_eq_none_iff.mp ?_, rfl⟩
    simp only [Value.texts, Value.members?, Option.getD_some] at hdots
    split at hdots <;> simp_all
  · rintro ⟨tokens, hne, hdots, rfl⟩
    refine ⟨⟨tokens, hne, ?_, rfl⟩, ?_⟩
    · rintro t ht rfl
      simpa using hdots "" ht
    · simp [Value.texts, Value.members?, dotless?_eq_none_iff.mpr hdots]

/-- What settings in normal form are like if they pass the check, with room for a number of levels
of groups in the pattern. -/
structure IsSoundWithin (levels : Nat) (c : Config) : Prop where
  markerTokens : c.markerTokens.IsTokens
  terminatorTokens : c.terminatorTokens.IsTokens
  terminatorPrefixes : c.terminatorPrefixes.isPresent = true → c.terminatorPrefixes.IsTokens
  keyPattern : ∃ source p, source ≠ "" ∧ c.keyPattern = .text source ∧
    Pattern.readWithin levels source.toList = .ok p
  extensions : ∃ tokens : List String, tokens ≠ [] ∧ (∀ t ∈ tokens, ['.'] <+: t.toList) ∧
    c.extensions = .texts tokens
  maxFileSize : ∃ n, 0 < n ∧ c.maxFileSize = .int n
  maxLineLength : ∃ n, 0 < n ∧ c.maxLineLength = .int n

/-- What settings in normal form are like if they pass the check with the usual room. -/
abbrev IsSound (c : Config) : Prop := c.IsSoundWithin Pattern.usualLevels

theorem checkOptionalTokens_eq_ok_iff {field : Field} {v : Value} :
    checkOptionalTokens field v = .ok () ↔ (v.isPresent = true → v.IsTokens) := by
  unfold checkOptionalTokens
  split <;> simp_all [checkTokens_eq_ok_iff]

/-- A setting is a positive integer when it passes the two checks of numbers. -/
theorem checkNumber_eq_ok_iff {field : Field} {v : Value} :
    checkInteger field v = .ok () ∧ checkPositive field v = .ok () ↔ ∃ n, 0 < n ∧ v = .int n := by
  cases v <;> simp [checkInteger, checkPositive]

/-- Settings in normal form pass the check exactly when they are sound. -/
theorem checkNormal_eq_ok_iff {levels : Nat} {c : Config} :
    checkNormal levels c = .ok () ↔ c.IsSoundWithin levels := by
  simp only [checkNormal, Stages.seq_eq_ok_iff, Stages.mapError_eq_ok_iff, checkTokens_eq_ok_iff,
    checkOptionalTokens_eq_ok_iff, checkPattern_eq_ok_iff, checkExtensions_eq_ok_iff]
  constructor
  · rintro ⟨hm, ht, hp, hk, he, hfi, hli, hfp, hlp⟩
    exact ⟨hm, ht, hp, hk, he, checkNumber_eq_ok_iff.mp ⟨hfi, hfp⟩,
      checkNumber_eq_ok_iff.mp ⟨hli, hlp⟩⟩
  · rintro ⟨hm, ht, hp, hk, he, hf, hl⟩
    obtain ⟨hfi, hfp⟩ := checkNumber_eq_ok_iff.mpr hf
    obtain ⟨hli, hlp⟩ := checkNumber_eq_ok_iff.mpr hl
    exact ⟨hm, ht, hp, hk, he, hfi, hli, hfp, hlp⟩

theorem check_eq_ok_iff {c : Config} : c.check = .ok () ↔ c.normalize.IsSound :=
  checkNormal_eq_ok_iff

@[simp] theorem toTuple_toTuple (v : Value) : toTuple (toTuple v) = toTuple v := by
  cases v <;> rfl

@[simp] theorem normalize_normalize (c : Config) : c.normalize.normalize = c.normalize := by
  simp [normalize]

/-- Settings that come out of a search are in normal form and pass the check. -/
theorem build_eq_ok {h : Host} {start : Path} {overrides : Entries} {c : Config}
    (hb : build h start overrides = .ok c) : c.normalize = c ∧ c.check = .ok () := by
  simp only [build] at hb
  split at hb
  · cases hb
  obtain ⟨found, -, hb⟩ := Stages.bind_eq_ok_iff.mp hb
  obtain ⟨changed, -, hb⟩ := Stages.bind_eq_ok_iff.mp hb
  obtain ⟨hcheck, hc⟩ := Stages.seq_eq_ok_iff.mp hb
  cases hc
  exact ⟨normalize_normalize changed, Stages.mapError_eq_ok_iff.mp hcheck⟩

end Config

end Foldline
