import Foldline.FileTree.Home
import Foldline.FileTree.Resolve

/-! # Paths and their texts

A path is read from a text and written as one. A path from the top whose names are plain is read
back from its text as it was, and a walk along the text is a walk along the names. -/

namespace Foldline

namespace Text

theorem cutAt_ne_nil (mark : Char) (s : List Char) : cutAt mark s ≠ [] := by
  induction s with
  | nil => simp [cutAt]
  | cons c rest ih =>
      simp only [cutAt]
      split
      · simp
      · split <;> simp

theorem notMem_of_mem_cutAt {mark : Char} {s piece : List Char} (hpiece : piece ∈ cutAt mark s) :
    mark ∉ piece := by
  induction s generalizing piece with
  | nil =>
      rw [cutAt, List.mem_singleton] at hpiece
      simp [hpiece]
  | cons c rest ih =>
      simp only [cutAt] at hpiece
      split at hpiece
      · rcases List.mem_cons.mp hpiece with rfl | hrest
        · simp
        · exact ih hrest
      · rename_i hc
        have hc : mark ≠ c := fun heq => hc (beq_iff_eq.mpr heq.symm)
        split at hpiece
        · rename_i first others hcut
          rcases List.mem_cons.mp hpiece with rfl | hothers
          · rw [List.mem_cons, not_or]
            exact ⟨hc, ih (hcut ▸ List.mem_cons_self)⟩
          · exact ih (hcut ▸ List.mem_cons_of_mem _ hothers)
        · rename_i hcut
          exact absurd hcut (cutAt_ne_nil mark rest)

theorem cutAt_of_notMem {mark : Char} {piece : List Char} (hmark : mark ∉ piece) :
    cutAt mark piece = [piece] := by
  induction piece with
  | nil => rfl
  | cons c rest ih =>
      rw [List.mem_cons, not_or] at hmark
      obtain ⟨hc, hrest⟩ := hmark
      simp [cutAt, Ne.symm hc, ih hrest]

theorem cutAt_append {mark : Char} {piece : List Char} (hmark : mark ∉ piece) (rest : List Char) :
    cutAt mark (piece ++ mark :: rest) = piece :: cutAt mark rest := by
  induction piece with
  | nil => simp [cutAt]
  | cons c others ih =>
      rw [List.mem_cons, not_or] at hmark
      obtain ⟨hc, hothers⟩ := hmark
      simp [cutAt, Ne.symm hc, ih hothers]

theorem Utf8.size_append (a b : List Char) : size (a ++ b) = size a + size b := by
  have hshift (s : List Char) (n : Nat) :
      s.foldl (fun n c => n + (encodeChar c).length) n = n + size s := by
    induction s generalizing n with
    | nil => rfl
    | cons c rest ih =>
        simp only [size, List.foldl_cons]
        rw [ih, ih (0 + _)]
        omega
  rw [size, List.foldl_append, hshift, ← size]

end Text

namespace Path

/-- A name of one place below another one: it is not empty, stands neither for the directory itself
nor for the one above, and a text can hold it between slashes. -/
structure IsPlain (name : Name) : Prop where
  ne_nil : name ≠ []
  ne_dot : name ≠ dot
  ne_dotDot : name ≠ dotDot
  noSlash : '/' ∉ name
  noNul : '\x00' ∉ name

/-- A name that a text can hold between slashes. -/
def IsPiece (name : Name) : Prop := name ≠ [] ∧ '/' ∉ name

variable {names : List Name} {name : Name}

theorem IsPlain.isPiece (hname : IsPlain name) : IsPiece name := ⟨hname.ne_nil, hname.noSlash⟩

@[simp] theorem joinNames_singleton (name : Name) : joinNames [name] = name := by
  simp [joinNames]

theorem joinNames_cons_cons (a b : Name) (rest : List Name) :
    joinNames (a :: b :: rest) = a ++ '/' :: joinNames (b :: rest) := by
  simp [joinNames]

/-- Names are joined from the front. -/
theorem joinNames_append (hne : names ≠ []) {more : List Name} (hmore : more ≠ []) :
    joinNames (names ++ more) = joinNames names ++ '/' :: joinNames more := by
  induction names with
  | nil => exact absurd rfl hne
  | cons a rest ih =>
      cases rest with
      | nil =>
          obtain ⟨b, more, rfl⟩ := List.exists_cons_of_ne_nil hmore
          rw [joinNames_singleton, List.singleton_append, joinNames_cons_cons]
      | cons b rest =>
          rw [List.cons_append, List.cons_append, joinNames_cons_cons, joinNames_cons_cons,
            ← List.cons_append, ih (by simp), List.append_assoc, List.cons_append]

/-- The text of names is at least as long as that of the first of them. -/
theorem size_joinNames_le (names more : List Name) :
    Text.Utf8.size (joinNames names) ≤ Text.Utf8.size (joinNames (names ++ more)) := by
  cases names with
  | nil => exact Nat.zero_le _
  | cons a rest =>
      cases more with
      | nil => exact Nat.le_of_eq (by rw [List.append_nil])
      | cons b more =>
          rw [joinNames_append (by simp) (by simp), Text.Utf8.size_append]
          exact Nat.le_add_right _ _

/-- Names between slashes are found again. -/
theorem namesIn_joinNames (hnames : ∀ name ∈ names, IsPiece name) :
    namesIn (joinNames names) = names := by
  induction names with
  | nil => rfl
  | cons a rest ih =>
      obtain ⟨hnil, hslash⟩ := hnames a List.mem_cons_self
      have hrest := ih fun name hname => hnames name (List.mem_cons_of_mem a hname)
      cases rest with
      | nil => simp [namesIn, Text.cutAt_of_notMem hslash, hnil]
      | cons b rest =>
          rw [joinNames_cons_cons, namesIn, Text.cutAt_append hslash, List.filter_cons_of_pos
            (by simp [hnil])]
          exact congrArg (a :: ·) hrest

theorem namesIn_slash (text : List Char) : namesIn ('/' :: text) = namesIn text := by
  simp [namesIn, Text.cutAt]

theorem isPiece_of_mem_namesIn {text : List Char} (hname : name ∈ namesIn text) : IsPiece name := by
  obtain ⟨hcut, hfull⟩ := List.mem_filter.mp hname
  exact ⟨by simpa using hfull, Text.notMem_of_mem_cutAt hcut⟩

/-- The names of a path that was read can stand between slashes. -/
theorem isPiece_of_mem_ofText {text : List Char} (hname : name ∈ (ofText text).names) :
    IsPiece name :=
  isPiece_of_mem_namesIn (List.mem_filter.mp hname).1

theorem head?_joinNames (hnames : ∀ name ∈ names, IsPiece name) :
    (joinNames names).head? ≠ some '/' := by
  cases names with
  | nil => simp [joinNames]
  | cons a rest =>
      obtain ⟨hnil, hslash⟩ := hnames a List.mem_cons_self
      obtain ⟨c, others, rfl⟩ := List.exists_cons_of_ne_nil hnil
      have hc : c ≠ '/' := fun heq => hslash (heq ▸ List.mem_cons_self)
      cases rest with
      | nil => simpa using hc
      | cons b rest => simpa [joinNames_cons_cons] using hc

theorem joinNames_ne_nil (hnames : ∀ name ∈ names, IsPiece name) (hne : names ≠ []) :
    joinNames names ≠ [] := by
  obtain ⟨a, rest, rfl⟩ := List.exists_cons_of_ne_nil hne
  have ha : a ≠ [] := (hnames a List.mem_cons_self).1
  cases rest <;> simp [joinNames_cons_cons, ha]

theorem getLast?_joinNames (hnames : ∀ name ∈ names, IsPiece name) :
    (joinNames names).getLast? ≠ some '/' := by
  induction names with
  | nil => simp [joinNames]
  | cons a rest ih =>
      obtain ⟨-, hslash⟩ := hnames a List.mem_cons_self
      cases rest with
      | nil =>
          rw [joinNames_singleton]
          exact fun hlast => hslash (List.mem_of_getLast? hlast)
      | cons b rest =>
          have hothers : ∀ name ∈ b :: rest, IsPiece name :=
            fun name hname => hnames name (List.mem_cons_of_mem a hname)
          have hlast := ih hothers
          have hne : joinNames (b :: rest) ≠ [] := joinNames_ne_nil hothers (by simp)
          obtain ⟨c, hc⟩ := Option.ne_none_iff_exists'.mp (mt List.getLast?_eq_none_iff.mp hne)
          rw [hc] at hlast
          rw [joinNames_cons_cons, List.getLast?_append, List.getLast?_cons_of_ne_nil hne, hc]
          exact hlast

/-- What stands in a name stands among the joined names. -/
theorem mem_joinNames {c : Char} (hname : name ∈ names) (hc : c ∈ name) : c ∈ joinNames names := by
  induction names with
  | nil => simp at hname
  | cons a rest ih =>
      cases rest with
      | nil =>
          rw [List.mem_singleton.mp hname] at hc
          simpa using hc
      | cons b rest =>
          rw [joinNames_cons_cons]
          rcases List.mem_cons.mp hname with rfl | hrest
          · exact List.mem_append_left _ hc
          · exact List.mem_append_right _ (List.mem_cons_of_mem _ (ih hrest))

/-- A NUL among joined names stands in one of them. -/
theorem noNul_joinNames (hnames : ∀ name ∈ names, '\x00' ∉ name) : '\x00' ∉ joinNames names := by
  induction names with
  | nil => simp [joinNames]
  | cons a rest ih =>
      have ha := hnames a List.mem_cons_self
      have hrest := ih fun name hname => hnames name (List.mem_cons_of_mem a hname)
      cases rest with
      | nil => simpa using ha
      | cons b rest => simpa [joinNames_cons_cons] using ⟨ha, hrest⟩

/-- A path from the top with plain names is read back from its text. -/
theorem ofText_text_absolute (hnames : ∀ name ∈ names, IsPlain name) :
    ofText (absolute names).text = absolute names := by
  have hpieces : ∀ name ∈ names, IsPiece name := fun name hname => (hnames name hname).isPiece
  have hroot : rootOf ('/' :: joinNames names) = .top := by
    have hhead := head?_joinNames hpieces
    cases hjoin : joinNames names with
    | nil => rfl
    | cons c rest =>
        have hc : c ≠ '/' := by simpa [hjoin] using hhead
        unfold rootOf
        split <;> simp_all
  have hfilter : names.filter (· != dot) = names := by
    rw [List.filter_eq_self]
    exact fun name hname => bne_iff_ne.mpr (hnames name hname).ne_dot
  simp only [ofText, text, absolute, hroot, namesIn_slash, namesIn_joinNames hpieces, hfilter]

end Path

namespace Host

variable {h : Host}

theorem isPiece_of_homePath? {written : List Char} {home : Path}
    (hhome : homePath? written = some home) : ∀ name ∈ home.names, Path.IsPiece name := by
  unfold homePath? at hhome
  split at hhome
  · cases hhome
    exact List.forall_mem_nil _
  · split at hhome
    · cases hhome
    · cases hhome
      exact fun name hname => Path.isPiece_of_mem_ofText hname

theorem isPiece_of_homeOf? {first : Name} {home : Path} (hhome : h.homeOf? first = some home) :
    ∀ name ∈ home.names, Path.IsPiece name := by
  unfold homeOf? at hhome
  split at hhome
  · obtain ⟨written, -, hpath⟩ := Option.bind_eq_some_iff.mp hhome
    exact isPiece_of_homePath? hpath
  · cases hhome

/-- With a home directory in front, the names of a path can still stand between slashes. -/
theorem isPiece_of_expandHome? {raw : List Char} {p : Path}
    (hp : h.expandHome? (Path.ofText raw) = some p) : ∀ name ∈ p.names, Path.IsPiece name := by
  have hraw : ∀ name ∈ (Path.ofText raw).names, Path.IsPiece name :=
    fun name hname => Path.isPiece_of_mem_ofText hname
  unfold expandHome? at hp
  split at hp
  · rename_i first rest _ hnames
    split at hp
    · obtain ⟨home, hhome, rfl⟩ := Option.map_eq_some_iff.mp hp
      intro name hname
      rcases List.mem_append.mp hname with hname | hrest
      · exact isPiece_of_homeOf? hhome name hname
      · exact hraw name (hnames ▸ List.mem_cons_of_mem first hrest)
    · cases hp
      exact hraw
  · cases hp
    exact hraw

theorem noSlash_of_expandHome? {raw : List Char} {p : Path}
    (hp : h.expandHome? (Path.ofText raw) = some p) : ∀ name ∈ p.names, '/' ∉ name :=
  fun name hname => (isPiece_of_expandHome? hp name hname).2

theorem expandHome?_absolute (names : List Name) :
    h.expandHome? (.absolute names) = some (.absolute names) := rfl

end Host

end Foldline
