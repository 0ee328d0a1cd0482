import Foldline.Proofs.Route
import Foldline.Source.Accept
import Mathlib.Data.List.Forall2

/-! # Accepted source files

To accept a path is to project it onto a file: the result is the path of a regular file from the
top, without links, whose own suffix is among the accepted ones, and it is accepted as itself. The
case of letters in the accepted suffixes makes no difference. -/

namespace Foldline

namespace Text

/-- Two characters are the same up to the case of letters from A to Z. -/
def SameLetter (c d : Char) : Prop :=
  c = d ∨ c.isAlpha = true ∧ d.isAlpha = true ∧ c.toLower = d.toLower

/-- Two texts are the same up to the case of letters from A to Z. -/
def SameLetters (s t : List Char) : Prop := List.Forall₂ SameLetter s t

/-- The code points of the letters from A to Z in both cases. -/
def letterCodes : List Nat := List.range' 65 26 ++ List.range' 97 26

theorem toNat_mem_letterCodes {c : Char} (hc : c.isAlpha = true) : c.toNat ∈ letterCodes := by
  delta Char.isAlpha Char.isUpper Char.isLower at hc
  simp only [Bool.or_eq_true, Bool.and_eq_true, decide_eq_true_eq, ge_iff_le,
    UInt32.le_iff_toNat_le] at hc
  simp only [letterCodes, List.mem_append, List.mem_range'_1]
  have hval : c.toNat = c.val.toNat := rfl
  simp at hc
  omega

/-- The tables of letter case on the letters from A to Z. -/
theorem tables_of_mem_letterCodes : ∀ n ∈ letterCodes,
    lowerCode n = (Char.ofNat n).toLower.toNat ∧ caseIgnorables.contains n = false ∧
      casedLetters.contains n = true ∧ n ≠ 'İ'.toNat ∧ n ≠ 'Σ'.toNat := by
  decide +kernel

section

variable {c d : Char} {a b s t : List Char}

theorem SameLetter.isIgnorable_eq (hcd : SameLetter c d) :
    caseIgnorables.contains c.toNat = caseIgnorables.contains d.toNat := by
  rcases hcd with rfl | ⟨hc, hd, -⟩
  · rfl
  · rw [(tables_of_mem_letterCodes _ (toNat_mem_letterCodes hc)).2.1,
      (tables_of_mem_letterCodes _ (toNat_mem_letterCodes hd)).2.1]

theorem SameLetter.isCased_eq (hcd : SameLetter c d) :
    casedLetters.contains c.toNat = casedLetters.contains d.toNat := by
  rcases hcd with rfl | ⟨hc, hd, -⟩
  · rfl
  · rw [(tables_of_mem_letterCodes _ (toNat_mem_letterCodes hc)).2.2.1,
      (tables_of_mem_letterCodes _ (toNat_mem_letterCodes hd)).2.2.1]

theorem meetsCased_cons (c : Char) (rest : List Char) :
    meetsCased (c :: rest) =
      if caseIgnorables.contains c.toNat then meetsCased rest
      else casedLetters.contains c.toNat := by
  unfold meetsCased
  rw [List.dropWhile_cons]
  cases caseIgnorables.contains c.toNat <;> rfl

/-- Which characters are looked through, and what has case, does not depend on the case. -/
theorem SameLetters.meetsCased_eq (hab : SameLetters a b) : meetsCased a = meetsCased b := by
  induction hab with
  | nil => rfl
  | cons hcd _ ih => rw [meetsCased_cons, meetsCased_cons, hcd.isIgnorable_eq, hcd.isCased_eq, ih]

/-- A letter from A to Z is lowered by itself. -/
theorem lowerFrom_letter (hc : c.isAlpha = true) (before rest : List Char) :
    lowerFrom before (c :: rest) = c.toLower :: lowerFrom (c :: before) rest := by
  obtain ⟨hlower, -, -, hdotted, hsigma⟩ := tables_of_mem_letterCodes _ (toNat_mem_letterCodes hc)
  have hdotted : c ≠ 'İ' := fun heq => hdotted (congrArg Char.toNat heq)
  have hsigma : c ≠ 'Σ' := fun heq => hsigma (congrArg Char.toNat heq)
  simp [lowerFrom, hdotted, hsigma, hlower]

theorem SameLetters.lowerFrom_eq (hst : SameLetters s t) (hab : SameLetters a b) :
    lowerFrom a s = lowerFrom b t := by
  induction hst generalizing a b with
  | nil => rfl
  | @cons c d s t hcd hst ih =>
      have hrest := ih (.cons hcd hab)
      rcases hcd with rfl | ⟨hc, hd, hsame⟩
      · simp only [lowerFrom, hrest, hab.meetsCased_eq, SameLetters.meetsCased_eq hst]
      · rw [lowerFrom_letter hc, lowerFrom_letter hd, hsame, hrest]

/-- The lower case of a text does not depend on the case of its letters from A to Z. -/
theorem SameLetters.lower_eq (hst : SameLetters s t) : lower s = lower t :=
  hst.lowerFrom_eq .nil

end

end Text

namespace Source

section

variable {h : Host} {raw : List Char} {setting : Value} {r : Path} {extensions others : List String}

theorem lowerSuffixes_texts (extensions : List String) :
    lowerSuffixes (extensions.map .text) = .ok (extensions.map (Text.lower ·.toList)) := by
  induction extensions with
  | nil => rfl
  | cons extension rest ih =>
      rw [List.map_cons, lowerSuffixes, ih]
      rfl

theorem acceptedSuffixes_of_members? (hsetting : setting.members? = some (extensions.map .text)) :
    acceptedSuffixes setting = .ok (extensions.map (Text.lower ·.toList)) := by
  rw [acceptedSuffixes, hsetting]
  exact lowerSuffixes_texts extensions

theorem isRegularFile_eq_true_iff :
    isRegularFile h r = .ok true ↔ ∃ bytes, h.target r.text = .ok (.file bytes) := by
  unfold isRegularFile
  split <;> simp_all

/-- What it takes for a path to be accepted. -/
theorem accept_eq_ok_iff :
    accept h raw setting = .ok r ↔ ∃ path bytes accepted,
      h.expandHome? (Path.ofText raw) = some path ∧ h.resolve true path = .ok r ∧
        h.target r.text = .ok (.file bytes) ∧ acceptedSuffixes setting = .ok accepted ∧
        Text.lower r.suffix ∈ accepted := by
  constructor
  · intro hr
    unfold accept at hr
    split at hr
    · rename_i path hpath
      obtain ⟨resolved, hresolved, hr⟩ := Stages.bind_eq_ok_iff.mp hr
      obtain ⟨regular, hregular, hr⟩ := Stages.bind_eq_ok_iff.mp hr
      cases regular with
      | false => cases hr
      | true =>
          obtain ⟨accepted, haccepted, hr⟩ := Stages.bind_eq_ok_iff.mp hr
          split at hr
          · rename_i hmem
            cases hr
            obtain ⟨bytes, htarget⟩ := isRegularFile_eq_true_iff.mp hregular
            exact ⟨path, bytes, accepted, hpath, Stages.mapError_eq_ok_iff.mp hresolved, htarget,
              haccepted, List.contains_iff_mem.mp hmem⟩
          · cases hr
    · cases hr
  · rintro ⟨path, bytes, accepted, hpath, hresolved, htarget, haccepted, hmem⟩
    have hregular := isRegularFile_eq_true_iff.mpr ⟨bytes, htarget⟩
    simp only [accept, hpath, hresolved, Stages.mapError_ok, haccepted]
    refine Stages.bind_eq_ok_iff.mpr ⟨r, rfl, Stages.bind_eq_ok_iff.mpr ⟨true, hregular, ?_⟩⟩
    exact if_pos (List.contains_iff_mem.mpr hmem)

/-- Only the accepted suffixes in lower case count. -/
theorem accept_congr {other : Value} (hsame : acceptedSuffixes other = acceptedSuffixes setting) :
    accept h raw other = accept h raw setting := by
  unfold accept
  rw [hsame]

/-- Two texts are the same up to the case of letters from A to Z. -/
def SameButCase (s t : String) : Prop := Text.SameLetters s.toList t.toList

theorem lower_of_sameButCase (hsame : List.Forall₂ SameButCase extensions others) :
    others.map (Text.lower ·.toList) = extensions.map (Text.lower ·.toList) := by
  induction hsame with
  | nil => rfl
  | cons hst _ ih => rw [List.map_cons, List.map_cons, ih, Text.SameLetters.lower_eq hst]

/-- The path that is accepted is one from the top, without dots and without a link on it, and it is
the path of a regular file whose own suffix is accepted. The case of letters in the accepted
suffixes does not count, and the path is accepted as itself. -/
theorem accept_projects (hplaced : h.IsPlaced)
    (hsetting : setting.members? = some (extensions.map .text))
    (hr : accept h raw setting = .ok r) :
    r.root = .top ∧
      (∀ name ∈ r.names, name ≠ [] ∧ name ≠ Path.dot ∧ name ≠ Path.dotDot ∧ '/' ∉ name) ∧
      (∀ place, place <+: r.names → ∀ target, h.tree.node? place ≠ some (.link target)) ∧
      (∃ bytes, h.tree.node? r.names = some (.file bytes)) ∧
      (∃ extension ∈ extensions, Text.lower r.suffix = Text.lower extension.toList) ∧
      (∀ (other : Value) (others : List String), other.members? = some (others.map .text) →
        List.Forall₂ SameButCase extensions others → accept h raw other = .ok r) ∧
      accept h r.text setting = .ok r := by
  obtain ⟨path, bytes, accepted, hpath, hresolve, htarget, haccepted, hmem⟩ :=
    accept_eq_ok_iff.mp hr
  obtain ⟨place, node, rfl, hleads⟩ :=
    Host.leads_of_resolve hplaced (Host.noSlash_of_expandHome? hpath) hresolve
  have hplain : ∀ name ∈ place, Path.IsPlain name := hleads.isPlain rfl
  have hsize : Text.Utf8.size (Path.absolute place).text ≤ FileTree.maxPathSize := by
    obtain ⟨_, hlocate, -⟩ := Stages.map_eq_ok_iff.mp htarget
    exact Host.size_le_of_locate hlocate
  have hsuffixes := acceptedSuffixes_of_members? hsetting
  refine ⟨rfl, ?_, ?_, ?_, ?_, ?_, ?_⟩
  · intro name hname
    obtain ⟨hnil, hdot, hdotDot, hslash, -⟩ := hplain name hname
    exact ⟨hnil, hdot, hdotDot, hslash⟩
  · rintro place ⟨below, rfl⟩ target hlink
    obtain ⟨found, hfound⟩ := hleads.isLed_of_append
    rw [hfound.node?_eq hplaced] at hlink
    exact hfound.ne_link target (Option.some.inj hlink)
  · rw [Host.target_of_leads hplaced hleads hsize] at htarget
    cases htarget
    exact ⟨bytes, hleads.node?_eq hplaced⟩
  · rw [hsuffixes] at haccepted
    cases haccepted
    obtain ⟨extension, hextension, heq⟩ := List.mem_map.mp hmem
    exact ⟨extension, hextension, heq.symm⟩
  · intro other others hother hsame
    rw [← hr]
    apply accept_congr
    rw [hsuffixes, acceptedSuffixes_of_members? hother, lower_of_sameButCase hsame]
  · apply accept_eq_ok_iff.mpr
    refine ⟨.absolute place, bytes, accepted, ?_, Host.resolve_of_leads hplaced hleads hsize,
      htarget, haccepted, hmem⟩
    rw [Path.ofText_text_absolute hplain, Host.expandHome?_absolute]

/-- A host with a source file and a link to it, which goes up and down again and has another
suffix. -/
def linkedSource : Host where
  tree := ⟨[(["d".toList], .directory),
    (["d".toList, "link.txt".toList], .link "../e/./A.TS".toList),
    (["e".toList], .directory), (["e".toList, "A.TS".toList], .file [])]⟩
  current := ["d".toList]

theorem accept_projects_linkedSource :
    linkedSource.IsPlaced ∧
      accept linkedSource "./link.txt".toList (.list [.text ".tS"]) =
        .ok (.absolute ["e".toList, "A.TS".toList]) ∧
      (∀ place, place <+: ["e".toList, "A.TS".toList] →
        ∀ target, linkedSource.tree.node? place ≠ some (.link target)) ∧
      accept linkedSource "./link.txt".toList (.texts [".Ts"]) =
        .ok (.absolute ["e".toList, "A.TS".toList]) ∧
      accept linkedSource "/e/A.TS".toList (.list [.text ".tS"]) =
        .ok (.absolute ["e".toList, "A.TS".toList]) := by
  have hplaced : linkedSource.IsPlaced := by
    have hcurrent : ∀ name ∈ linkedSource.current, name = "d".toList := by simp [linkedSource]
    refine ⟨fun name hname => ?_, fun name hname => ?_, fun place hplace => ?_⟩
    · rw [hcurrent name hname]
      exact ⟨by decide, by decide, by decide, by decide, by decide⟩
    · rw [hcurrent name hname]
      decide
    · rcases List.prefix_cons_iff.mp hplace with rfl | ⟨rest, rfl, hrest⟩
      · rfl
      · rw [List.prefix_nil.mp hrest]
        decide
  have haccept : accept linkedSource "./link.txt".toList (.list [.text ".tS"]) =
      .ok (.absolute ["e".toList, "A.TS".toList]) := by
    decide +kernel
  have hsetting : (Value.list [.text ".tS"]).members? = some ([".tS"].map .text) := rfl
  obtain ⟨-, -, hlinks, -, -, hcase, hagain⟩ := accept_projects hplaced hsetting haccept
  refine ⟨hplaced, haccept, hlinks, hcase _ [".Ts"] rfl ?_, hagain⟩
  have ht : Text.SameLetter 't' 'T' := .inr (by decide)
  have hs : Text.SameLetter 'S' 's' := .inr (by decide)
  exact .cons (.cons (.inl rfl) (.cons ht (.cons hs .nil))) .nil

end

end Source

end Foldline
