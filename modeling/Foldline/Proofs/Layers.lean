import Foldline.Proofs.Search
import Mathlib.Data.List.Sort

/-! # Settings in layers

Settings come in layers: the defaults, the table of a settings file, the overrides of a caller. What
is given by name in one layer covers what is below, setting by setting, and what is not given shows
through. A name that is no setting is refused, unless it comes with an override that does not count.

The order in which a layer gives its values matters only where two of them are for one setting: then
the last one counts.

## Implementation notes

`layer` says what a layer does to each setting at once. Assigning by name and reading a table both
go through their entries one by one, and both come to this. -/

namespace Foldline

namespace Field

theorem ofName?_eq_some_iff {name : String} {field : Field} :
    ofName? name = some field ↔ field.name = name := by
  constructor
  · intro hfound
    simpa using List.find?_some hfound
  · rintro rfl
    cases field <;> decide

theorem ofName?_eq_none_iff {name : String} :
    ofName? name = none ↔ ∀ field : Field, field.name ≠ name := by
  rw [Option.eq_none_iff_forall_not_mem]
  exact forall_congr' fun field => not_congr ofName?_eq_some_iff

theorem name_injective : Function.Injective name := by
  intro a b hab
  have ha := ofName?_eq_some_iff.mpr (rfl : a.name = a.name)
  rw [hab, ofName?_eq_some_iff.mpr rfl] at ha
  exact (Option.some.inj ha).symm

/-- The settings that are sequences. -/
def IsSequence (field : Field) : Prop :=
  field = .markerTokens ∨ field = .terminatorTokens ∨ field = .terminatorPrefixes ∨
    field = .extensions

instance (field : Field) : Decidable field.IsSequence :=
  inferInstanceAs (Decidable (_ ∨ _ ∨ _ ∨ _))

/-- The form in which a value is kept: in a sequence a bare text is a tuple of one and a list is a
tuple, and everything else is as it was given. -/
def settle (field : Field) : Value → Value
  | .text s => if field.IsSequence then .tuple [.text s] else .text s
  | .list items => if field.IsSequence then .tuple items else .list items
  | v => v

end Field

namespace Config

/-- The settings with these values. -/
def ofValues (values : Field → Value) : Config where
  markerTokens := values .markerTokens
  terminatorTokens := values .terminatorTokens
  terminatorPrefixes := values .terminatorPrefixes
  keyPattern := values .keyPattern
  extensions := values .extensions
  maxFileSize := values .maxFileSize
  maxLineLength := values .maxLineLength

section

variable {a b c : Config}

@[simp] theorem get_ofValues (values : Field → Value) (field : Field) :
    (ofValues values).get field = values field := by
  cases field <;> rfl

theorem eq_of_get (hab : ∀ field, a.get field = b.get field) : a = b := by
  have hm := hab .markerTokens
  have ht := hab .terminatorTokens
  have hp := hab .terminatorPrefixes
  have hk := hab .keyPattern
  have he := hab .extensions
  have hf := hab .maxFileSize
  have hl := hab .maxLineLength
  cases a
  cases b
  simp_all only [get]

@[simp] theorem get_set (c : Config) (field other : Field) (v : Value) :
    (c.set field v).get other = if other = field then v else c.get other := by
  cases field <;> cases other <;> rfl

theorem get_normalize (c : Config) (field : Field) :
    c.normalize.get field = field.settle (c.get field) := by
  have hkeep (v : Value) (hno : ¬ field.IsSequence) : field.settle v = v := by
    cases v <;> simp [Field.settle, hno]
  have htuple (v : Value) (hyes : field.IsSequence) : field.settle v = toTuple v := by
    cases v <;> simp [Field.settle, toTuple, hyes]
  by_cases hseq : field.IsSequence
  · rw [htuple _ hseq]
    rcases hseq with rfl | rfl | rfl | rfl <;> rfl
  · rw [hkeep _ hseq]
    cases field <;> first | rfl | exact absurd (by decide) hseq

end

/-! ## One layer -/

section

variable {name : String} {v : Value} {entries : Entries}

/-- The value that an entry gives under a name. -/
def valueUnder? (name : String) (e : String × Value) : Option Value :=
  if e.1 = name then some e.2 else none

/-- The value of the last entry under a name. -/
def lastUnder? (name : String) : Entries → Option Value
  | [] => none
  | e :: rest => (lastUnder? name rest).or (valueUnder? name e)

theorem lastUnder?_append (name : String) (before after : Entries) :
    lastUnder? name (before ++ after) = (lastUnder? name after).or (lastUnder? name before) := by
  induction before with
  | nil => simp [lastUnder?]
  | cons e rest ih => simp [lastUnder?, ih, Option.or_assoc]

theorem lastUnder?_eq_none_iff : lastUnder? name entries = none ↔ ∀ e ∈ entries, e.1 ≠ name := by
  induction entries with
  | nil => simp [lastUnder?]
  | cons e rest ih => simp [lastUnder?, valueUnder?, ih, and_comm]

/-- The last entry under a name gives the value. -/
theorem lastUnder?_of_last {before after : Entries} (hafter : ∀ e ∈ after, e.1 ≠ name) :
    lastUnder? name (before ++ (name, v) :: after) = some v := by
  rw [lastUnder?_append, lastUnder?, lastUnder?_eq_none_iff.mpr hafter]
  simp [valueUnder?]

theorem mem_of_lastUnder? (hlast : lastUnder? name entries = some v) : (name, v) ∈ entries := by
  induction entries with
  | nil => cases hlast
  | cons e rest ih =>
      rcases Option.or_eq_some_iff.mp hlast with hrest | ⟨-, he⟩
      · exact List.mem_cons_of_mem e (ih hrest)
      · obtain ⟨rfl, rfl⟩ : e.1 = name ∧ e.2 = v := by simpa [valueUnder?] using he
        exact List.mem_cons_self

/-- Of entries with names of their own, each one is the last under its name. -/
theorem lastUnder?_eq_some_iff (hnames : (entries.map (·.1)).Nodup) :
    lastUnder? name entries = some v ↔ (name, v) ∈ entries := by
  refine ⟨mem_of_lastUnder?, fun hmem => ?_⟩
  obtain ⟨before, after, rfl⟩ := List.append_of_mem hmem
  apply lastUnder?_of_last
  rintro e he rfl
  rw [List.map_append, List.nodup_append] at hnames
  exact (List.nodup_cons.mp hnames.2.1).1 (List.mem_map.mpr ⟨e, he, rfl⟩)

/-- The settings of `c` with a layer of entries on top. -/
def layer (c : Config) (entries : Entries) : Config :=
  .ofValues fun field => (lastUnder? field.name entries).getD (c.get field)

@[simp] theorem get_layer (c : Config) (entries : Entries) (field : Field) :
    (c.layer entries).get field = (lastUnder? field.name entries).getD (c.get field) :=
  get_ofValues _ field

/-- An entry that is assigned first is covered by the ones after it. -/
theorem layer_set (c : Config) (field : Field) (v : Value) (rest : Entries) :
    (c.set field v).layer rest = c.layer ((field.name, v) :: rest) := by
  apply eq_of_get
  intro other
  simp only [get_layer, get_set, lastUnder?, valueUnder?, Field.name_injective.eq_iff]
  cases lastUnder? other.name rest with
  | some w => rfl
  | none =>
      by_cases hother : other = field
      · simp [hother]
      · simp [hother, Ne.symm hother]

/-- An entry under a name that is no setting changes nothing. -/
theorem layer_of_unknown {e : String × Value} (he : ∀ field : Field, field.name ≠ e.1)
    (c : Config) (rest : Entries) : c.layer (e :: rest) = c.layer rest := by
  apply eq_of_get
  intro field
  have hnone : valueUnder? field.name e = none := by simp [valueUnder?, (he field).symm]
  simp [lastUnder?, hnone]

/-- Assigning by name puts a layer on top, as long as each name is that of a setting. -/
theorem assign_of_known (c : Config)
    (hknown : ∀ e ∈ entries, ∃ field : Field, field.name = e.1) :
    c.assign entries = .ok (c.layer entries) := by
  induction entries generalizing c with
  | nil => rfl
  | cons e rest ih =>
      obtain ⟨name, v⟩ := e
      obtain ⟨field, rfl⟩ := hknown _ List.mem_cons_self
      have hrest := ih (c.set field v) fun e he => hknown e (List.mem_cons_of_mem _ he)
      simp only [assign, Field.ofName?_eq_some_iff.mpr rfl, hrest, layer_set]

/-- Assigning by name fails as soon as one name is not that of a setting. -/
theorem assign_of_unknown (c : Config)
    (hunknown : ∃ e ∈ entries, ∀ field : Field, field.name ≠ e.1) :
    ∃ fault, c.assign entries = .error fault := by
  induction entries generalizing c with
  | nil => simp at hunknown
  | cons e rest ih =>
      obtain ⟨name, v⟩ := e
      simp only [assign]
      cases hfield : Field.ofName? name with
      | none =>
          dsimp only
          split <;> exact ⟨_, rfl⟩
      | some field =>
          obtain ⟨e, he, hno⟩ := hunknown
          rcases List.mem_cons.mp he with rfl | hrest
          · exact absurd (Field.ofName?_eq_some_iff.mp hfield) (hno field)
          · exact ih (c.set field v) ⟨e, hrest, hno⟩

end

/-! ## Overrides -/

section

variable {v : Value} {overrides : Entries} {found : Config}

/-- An override counts when its value is neither null nor the empty tuple. -/
def IsEffective (v : Value) : Prop := v ≠ .null ∧ v ≠ .tuple []

theorem isEffective_eq_true_iff : isEffective v = true ↔ IsEffective v := by
  cases v with
  | tuple items => cases items <;> simp [isEffective, IsEffective]
  | _ => simp [isEffective, IsEffective]

theorem mem_effective {e : String × Value} :
    e ∈ effective overrides ↔ e ∈ overrides ∧ IsEffective e.2 := by
  simp [effective, isEffective_eq_true_iff]

/-- The settings `r` are those found with overrides on top: what an override gives counts, if it
counts at all, and otherwise what was found, each in the form in which it is kept. -/
def IsLayered (found : Config) (overrides : Entries) (r : Config) : Prop :=
  ∀ field : Field,
    (∀ v, (field.name, v) ∈ overrides → IsEffective v → r.get field = field.settle v) ∧
    ((∀ v, (field.name, v) ∈ overrides → ¬ IsEffective v) →
      r.get field = field.settle (found.get field))

theorem isLayered_layer (hnames : (overrides.map (·.1)).Nodup) :
    IsLayered found overrides (found.layer (effective overrides)).normalize := by
  have hunder : ((effective overrides).map (·.1)).Nodup :=
    hnames.sublist (List.filter_sublist.map _)
  intro field
  simp only [get_normalize, get_layer]
  constructor
  · intro v hmem hv
    rw [(lastUnder?_eq_some_iff hunder).mpr (mem_effective.mpr ⟨hmem, hv⟩), Option.getD_some]
  · intro hnone
    have hlast : lastUnder? field.name (effective overrides) = none := by
      rw [lastUnder?_eq_none_iff]
      rintro ⟨name, v⟩ he rfl
      obtain ⟨hmem, hv⟩ := mem_effective.mp he
      exact hnone v hmem hv
    rw [hlast, Option.getD_none]

/-- Without the names of the calls' own parameters, a layer of overrides is built from what was
found by the names that count. -/
theorem build_eq {h : Host} {start : Path} (hfound : search h start = .ok found)
    (hown : ∀ e ∈ overrides, e.1 ≠ "config" ∧ e.1 ≠ "search_path") :
    build h start overrides = (do
      let c ← (found.assign (effective overrides)).mapError fun e => .refused (.badOverride e)
      c.normalize.check.mapError .ofCheck
      return c.normalize) := by
  have hstart : overrides.any (·.1 == "search_path") = false := by
    simpa using fun name v he => (hown (name, v) he).2
  have hconfig : overrides.any (·.1 == "config") = false := by
    simpa using fun name v he => (hown (name, v) he).1
  simp only [build, hstart, hfound, override, hconfig]
  rfl

/-- Settings are built in layers. An override that counts under a name that is no setting is
refused. Otherwise the settings found with the overrides on top are given exactly if they pass the
check, and else the fault of the check. What is given is in normal form and passes the check. -/
theorem build_layers {h : Host} {start : Path} (hfound : search h start = .ok found)
    (hnames : (overrides.map (·.1)).Nodup)
    (hown : ∀ e ∈ overrides, e.1 ≠ "config" ∧ e.1 ≠ "search_path") :
    ((∃ e ∈ overrides, IsEffective e.2 ∧ ∀ field : Field, field.name ≠ e.1) →
      ∃ e, build h start overrides = .error (.refused e)) ∧
    ((∀ e ∈ overrides, IsEffective e.2 → ∃ field : Field, field.name = e.1) →
      ∃ r, IsLayered found overrides r ∧
        (r.check = .ok () → build h start overrides = .ok r) ∧
        ∀ fault, r.check = .error fault → build h start overrides = .error (.ofCheck fault)) ∧
    ∀ r, build h start overrides = .ok r → r.normalize = r ∧ r.check = .ok () := by
  rw [build_eq hfound hown]
  refine ⟨?_, ?_, ?_⟩
  · rintro ⟨e, he, hv, hno⟩
    obtain ⟨fault, hfault⟩ := assign_of_unknown found ⟨e, mem_effective.mpr ⟨he, hv⟩, hno⟩
    exact ⟨.badOverride fault, by rw [hfault]; rfl⟩
  · intro hknown
    have hassign : found.assign (effective overrides) = .ok (found.layer (effective overrides)) :=
      assign_of_known found fun e he =>
        hknown e (mem_effective.mp he).1 (mem_effective.mp he).2
    refine ⟨_, isLayered_layer hnames, ?_, ?_⟩
    · intro hcheck
      rw [hassign, Stages.mapError_ok]
      exact Stages.seq_eq_ok_iff.mpr ⟨Stages.mapError_eq_ok_iff.mpr hcheck, rfl⟩
    · intro fault hcheck
      rw [hassign, Stages.mapError_ok]
      change (Except.mapError _ _ >>= fun _ => Except.ok _) = _
      rw [hcheck]
      rfl
  · intro r hr
    rw [← build_eq hfound hown] at hr
    exact build_eq_ok hr

/-- A host with one settings file. -/
def settledHost : Host where
  tree := ⟨[(["pyproject.toml".toList],
    .file "[tool.stylex-fold]\nmax-file-size = 7\nmax-line-length = 9\n".toUTF8.toList)]⟩
  current := []

/-- An override that counts, one that is null, and one that is empty and names no setting. -/
def someOverrides : Entries :=
  [("max_line_length", .int 5), ("max_file_size", .null), ("tab_width", .tuple [])]

theorem build_layers_settledHost :
    ∃ found, search settledHost (.absolute []) = .ok found ∧ found.maxFileSize = .int 7 ∧
      (someOverrides.map (·.1)).Nodup ∧
      (∀ e ∈ someOverrides, e.1 ≠ "config" ∧ e.1 ≠ "search_path") ∧
      (∃ r, build settledHost (.absolute []) someOverrides = .ok r ∧ r.maxLineLength = .int 5 ∧
        r.maxFileSize = .int 7 ∧ r.normalize = r) ∧
      ∃ e, build settledHost (.absolute []) [("tab_width", .list [])] = .error (.refused e) := by
  obtain ⟨found, hfound, hsize⟩ := Stages.exists_eq_ok_of_any
    (x := search settledHost (.absolute [])) (p := fun c => c.maxFileSize.isInt 7)
    (by decide +kernel)
  have hsize := Value.isInt_eq_true_iff.mp hsize
  have hnames : (someOverrides.map (·.1)).Nodup := by simp [someOverrides]
  have hown : ∀ e ∈ someOverrides, e.1 ≠ "config" ∧ e.1 ≠ "search_path" := by
    simp [someOverrides]
  refine ⟨found, hfound, hsize, hnames, hown, ?_, ?_⟩
  · obtain ⟨-, hlayers, hnormal⟩ := build_layers hfound hnames hown
    obtain ⟨r, hr, hok, herror⟩ := hlayers (by
      simpa [someOverrides, IsEffective] using ⟨.maxLineLength, rfl⟩)
    have hbuild : build settledHost (.absolute []) someOverrides = .ok r := by
      cases hcheck : r.check with
      | ok _ => exact hok hcheck
      | error fault =>
          have hsome : (build settledHost (.absolute []) someOverrides).toOption.isSome = true := by
            decide +kernel
          rw [herror fault hcheck] at hsome
          cases hsome
    refine ⟨r, hbuild, ?_, ?_, (hnormal r hbuild).1⟩
    · have hgiven : (Field.maxLineLength.name, .int 5) ∈ someOverrides := by
        simp [someOverrides, Field.name]
      exact (hr .maxLineLength).1 (.int 5) hgiven (by simp [IsEffective])
    · have hkept := (hr .maxFileSize).2 (by simp [someOverrides, Field.name, IsEffective])
      have hget : found.get .maxFileSize = .int 7 := hsize
      rw [hget] at hkept
      exact hkept
  · apply (build_layers hfound (by simp) (by simp)).1
    exact ⟨_, List.mem_cons_self, by simp [IsEffective],
      Field.ofName?_eq_none_iff.mp (by decide)⟩

end

/-! ## Tables of settings files -/

section

variable {entries others : Entries} {name : String}

/-- A key of a table stands for the name that it is with each dash as a low line. -/
def StandsFor (key name : String) : Prop :=
  name.toList = key.toList.map fun c => if c = '-' then '_' else c

theorem fieldKey_eq_iff {key : String} : fieldKey key = name ↔ StandsFor key name := by
  simp only [fieldKey, Text.replaceChar, StandsFor, beq_iff_eq]
  rw [← String.toList_inj, String.toList_ofList, eq_comm]

/-- The entries of a table under the names that their keys stand for. -/
def underNames (entries : Entries) : Entries := entries.map fun e => (fieldKey e.1, e.2)

theorem mem_unknownKeys :
    name ∈ unknownKeys entries ↔
      (∃ e ∈ entries, StandsFor e.1 name) ∧ ∀ field : Field, field.name ≠ name := by
  simp only [unknownKeys, List.mem_mergeSort, List.mem_eraseDups, List.mem_filter, List.mem_map,
    Option.isNone_iff_eq_none, Field.ofName?_eq_none_iff, fieldKey_eq_iff]

theorem nodup_eraseDups (keys : List String) : keys.eraseDups.Nodup := by
  induction hlength : keys.length using Nat.strongRecOn generalizing keys with
  | ind n ih =>
      cases keys with
      | nil => exact .nil
      | cons key rest =>
          have hshorter : (rest.filter fun k => !k == key).length < n :=
            hlength ▸ Nat.lt_succ_of_le (List.length_filter_le _ rest)
          rw [List.eraseDups_cons, List.nodup_cons, List.mem_eraseDups]
          exact ⟨by simp, ih _ hshorter _ rfl⟩

/-- The keys that name no setting come in ascending order, each once. -/
theorem pairwise_unknownKeys (entries : Entries) : (unknownKeys entries).Pairwise (· < ·) := by
  unfold unknownKeys
  generalize hkeys : (List.filter _ _ : List String) = keys
  have htest : ∀ a b : String, (!decide (b < a)) = true ↔ a ≤ b := fun a b => by
    rw [Bool.not_eq_true', decide_eq_false_iff_not, String.not_lt]
  have hsorted : (keys.eraseDups.mergeSort fun a b => !decide (b < a)).Pairwise
      fun a b => (!decide (b < a)) = true := by
    apply List.pairwise_mergeSort
    · intro a b c hab hbc
      exact (htest a c).mpr (String.le_trans ((htest a b).mp hab) ((htest b c).mp hbc))
    · intro a b
      rw [Bool.or_eq_true_iff, htest, htest]
      exact String.le_total a b
  have hnodup : (keys.eraseDups.mergeSort fun a b => !decide (b < a)).Nodup :=
    (List.mergeSort_perm _ _).nodup_iff.mpr (nodup_eraseDups keys)
  refine (hsorted.and hnodup).imp ?_
  rintro a b ⟨hle, hne⟩
  by_contra hlt
  exact hne (String.le_antisymm ((htest a b).mp hle) (String.not_lt.mp hlt))

/-- Only the set of keys decides which of them name no setting. -/
theorem unknownKeys_congr (hkeys : ∀ name, (∃ e ∈ entries, StandsFor e.1 name) ↔
    ∃ e ∈ others, StandsFor e.1 name) : unknownKeys entries = unknownKeys others := by
  have hasymm : Std.Asymm fun a b : String => a < b := ⟨fun a b hab hba =>
    String.lt_irrefl a (String.lt_trans hab hba)⟩
  apply (pairwise_unknownKeys entries).eq_of_mem_iff (pairwise_unknownKeys others)
  intro name
  rw [mem_unknownKeys, mem_unknownKeys, hkeys]

/-- A step that assigns one entry under the name its key stands for puts it on top. -/
theorem layer_underNames_cons (c : Config) (e : String × Value) (rest : Entries) :
    c.layer (underNames (e :: rest)) =
      (((Field.ofName? (fieldKey e.1)).map (c.set · e.2)).getD c).layer (underNames rest) := by
  rw [underNames, List.map_cons, ← underNames]
  cases hfield : Field.ofName? (fieldKey e.1) with
  | none => exact layer_of_unknown (Field.ofName?_eq_none_iff.mp hfield) c _
  | some field =>
      rw [← Field.ofName?_eq_some_iff.mp hfield]
      exact (layer_set c field e.2 _).symm

/-- Going through a table entry by entry puts a layer on top. -/
theorem foldl_eq_layer {step : Config → String × Value → Config}
    (hstep : ∀ c e, step c e = ((Field.ofName? (fieldKey e.1)).map (c.set · e.2)).getD c)
    (c : Config) (entries : Entries) : entries.foldl step c = c.layer (underNames entries) := by
  induction entries generalizing c with
  | nil => rfl
  | cons e rest ih => rw [List.foldl_cons, ih, hstep, layer_underNames_cons]

theorem ofTable_eq (entries : Entries) (file : String) (table : List String) :
    ofTable (.table entries) file table =
      if unknownKeys entries = [] then .ok (layer {} (underNames entries))
      else .error (.unknownKeys table file (unknownKeys entries)) := by
  unfold ofTable
  dsimp only
  split
  · rename_i hnone
    rw [if_pos hnone, foldl_eq_layer]
    intro c e
    cases Field.ofName? (fieldKey e.1) <;> rfl
  · rename_i hsome
    rw [if_neg hsome]

/-- Entries with names of their own make the same layer in any order. -/
theorem layer_perm (c : Config) (hperm : others.Perm entries)
    (hnames : (entries.map (·.1)).Nodup) : c.layer others = c.layer entries := by
  apply eq_of_get
  intro field
  have hnames' : (others.map (·.1)).Nodup := (hperm.map _).nodup_iff.mpr hnames
  have hlast : lastUnder? field.name others = lastUnder? field.name entries := by
    apply Option.ext
    intro v
    rw [lastUnder?_eq_some_iff hnames', lastUnder?_eq_some_iff hnames, hperm.mem_iff]
  rw [get_layer, get_layer, hlast]

/-- The value of a setting in a table is that of the last entry whose key stands for the setting. -/
theorem lastUnder?_underNames_of_last {before after : Entries} {key : String} {v : Value}
    (hkey : StandsFor key name) (hafter : ∀ e ∈ after, ¬ StandsFor e.1 name) :
    lastUnder? name (underNames (before ++ (key, v) :: after)) = some v := by
  rw [underNames, List.map_append, List.map_cons, fieldKey_eq_iff.mpr hkey]
  apply lastUnder?_of_last
  intro e he hname
  obtain ⟨e, he', rfl⟩ := List.mem_map.mp he
  exact hafter e he' (fieldKey_eq_iff.mp hname)

theorem lastUnder?_underNames_of_none (hnone : ∀ e ∈ entries, ¬ StandsFor e.1 name) :
    lastUnder? name (underNames entries) = none := by
  rw [lastUnder?_eq_none_iff]
  intro e he hname
  obtain ⟨e, he', rfl⟩ := List.mem_map.mp he
  exact hnone e he' (fieldKey_eq_iff.mp hname)

/-- A table is refused exactly if some key stands for a name that is no setting, and the message
lists these names in ascending order, each once. Otherwise each setting has the value of the last
entry for it, or its default. The order of entries for different names makes no difference. -/
theorem ofTable_table (entries : Entries) (file : String) (table : List String) :
    (∃ unknown : List String, unknown.Pairwise (· < ·) ∧
      (∀ name, name ∈ unknown ↔
        (∃ e ∈ entries, StandsFor e.1 name) ∧ ∀ field : Field, field.name ≠ name) ∧
      (unknown ≠ [] → ∃ e, ofTable (.table entries) file table = .error e ∧
        e.message = s!"Invalid `[{tableName table}]` settings in {file}: unknown keys " ++
          ", ".intercalate unknown) ∧
      (unknown = [] → ∃ c, ofTable (.table entries) file table = .ok c ∧ ∀ field : Field,
        (∀ before key v after, entries = before ++ (key, v) :: after →
          StandsFor key field.name → (∀ e ∈ after, ¬ StandsFor e.1 field.name) →
            c.get field = v) ∧
        ((∀ e ∈ entries, ¬ StandsFor e.1 field.name) →
          c.get field = ({} : Config).get field))) ∧
    ∀ others : Entries, others.Perm entries →
      entries.Pairwise (fun a b => ∀ name, StandsFor a.1 name → ¬ StandsFor b.1 name) →
        ofTable (.table others) file table = ofTable (.table entries) file table := by
  rw [ofTable_eq]
  refine ⟨⟨unknownKeys entries, pairwise_unknownKeys entries, fun name => mem_unknownKeys,
    ?_, ?_⟩, ?_⟩
  · intro hsome
    exact ⟨_, if_neg hsome, rfl⟩
  · intro hnone
    refine ⟨_, if_pos hnone, fun field => ⟨?_, ?_⟩⟩
    · rintro before key v after rfl hkey hafter
      rw [get_layer, lastUnder?_underNames_of_last hkey hafter, Option.getD_some]
    · intro hno
      rw [get_layer, lastUnder?_underNames_of_none hno, Option.getD_none]
  · intro others hperm hapart
    have hnames : ((underNames entries).map (·.1)).Nodup := by
      rw [underNames, List.map_map, List.Nodup, List.pairwise_map]
      refine hapart.imp fun {a b} hab heq => ?_
      exact hab _ (fieldKey_eq_iff.mp rfl) (fieldKey_eq_iff.mp heq.symm)
    have hkeys : unknownKeys others = unknownKeys entries :=
      unknownKeys_congr fun name => by simp only [hperm.mem_iff]
    have hunder : (underNames others).Perm (underNames entries) := hperm.map _
    rw [ofTable_eq, hkeys, layer_perm _ hunder hnames]

/-- A table in which two keys stand for one setting. -/
def doubledTable : Entries := [("max-line-length", .int 1), ("max_line_length", .int 2)]

/-- A table with keys of their own. -/
def straightTable : Entries := [("max-file-size", .int 1), ("max-line-length", .int 2)]

theorem ofTable_table_doubledTable :
    (∃ c, ofTable (.table doubledTable) "a" ["b"] = .ok c ∧ c.maxLineLength = .int 2 ∧
      c.maxFileSize = .int defaultMaxFileSize) ∧
    (∃ e, ofTable (.table (("tab-width", .null) :: doubledTable)) "a" ["b"] = .error e) ∧
    ofTable (.table straightTable.reverse) "a" ["b"] =
      ofTable (.table straightTable) "a" ["b"] := by
  refine ⟨?_, ?_, ?_⟩
  · obtain ⟨⟨unknown, -, hmem, -, hnone⟩, -⟩ := ofTable_table doubledTable "a" ["b"]
    have hempty : unknown = [] := by
      rw [List.eq_nil_iff_forall_not_mem]
      intro name hname
      obtain ⟨⟨e, he, hkey⟩, hno⟩ := (hmem name).mp hname
      apply hno .maxLineLength
      rw [← fieldKey_eq_iff.mpr hkey]
      rcases List.mem_pair.mp he with rfl | rfl <;> decide
    obtain ⟨c, hc, hget⟩ := hnone hempty
    have hlast := (hget .maxLineLength).1 [("max-line-length", .int 1)] "max_line_length" _ [] rfl
    refine ⟨c, hc, hlast (fieldKey_eq_iff.mp (by decide)) (by simp), ?_⟩
    · apply (hget .maxFileSize).2
      intro e he
      rw [← fieldKey_eq_iff]
      rcases List.mem_pair.mp he with rfl | rfl <;> decide
  · obtain ⟨⟨unknown, -, hmem, hsome, -⟩, -⟩ :=
      ofTable_table (("tab-width", .null) :: doubledTable) "a" ["b"]
    have hname : "tab_width" ∈ unknown := (hmem "tab_width").mpr
      ⟨⟨_, List.mem_cons_self, fieldKey_eq_iff.mp (by decide)⟩,
        Field.ofName?_eq_none_iff.mp (by decide)⟩
    obtain ⟨e, he, -⟩ := hsome (List.ne_nil_of_mem hname)
    exact ⟨e, he⟩
  · apply (ofTable_table straightTable "a" ["b"]).2 _ (List.reverse_perm straightTable)
    simp only [straightTable, ← fieldKey_eq_iff]
    refine List.pairwise_pair.mpr ?_
    rintro name rfl
    decide

end

end Config

end Foldline
