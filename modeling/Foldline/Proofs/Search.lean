import Foldline.Proofs.Settings
import Mathlib.Data.List.Induction

/-! # Which table decides a search

A search goes from a directory up to the top and looks for three tables in each directory. The
first table that can be read and is there decides: its value gives the settings or is refused, and
whatever stands further on makes no difference. Without any such table the defaults count.

A file whose path is too long for the system ends a search as well, with a fault of the system in
place of settings.

## Implementation notes

`candidates` groups the tables by their files, and a file is read once for all of its tables.
`searchOrder` lists the tables one by one and climbs from parent to parent. -/

namespace Foldline

/-- Whether the value is this integer. -/
def Value.isInt (n : Int) : Value → Bool
  | .int m => m == n
  | _ => false

theorem Value.isInt_eq_true_iff {n : Int} {v : Value} : v.isInt n = true ↔ v = .int n := by
  cases v <;> simp [isInt]

namespace Path

/-- Above a path come the paths above its parent. -/
theorem ancestors_concat (root : Root) (names : List Name) (last : Name) :
    ancestors ⟨root, names ++ [last]⟩ = ⟨root, names ++ [last]⟩ :: ancestors ⟨root, names⟩ := by
  simp only [ancestors, List.length_append, List.length_singleton]
  rw [List.range_succ_eq_map, List.map_cons, List.map_map]
  congr 1
  · rw [Nat.sub_zero, List.take_of_length_le (by simp)]
  · apply List.map_congr_left
    intro up _
    have hback : names.length + 1 - (up + 1) = names.length - up := by omega
    rw [Function.comp_apply, Nat.succ_eq_add_one, hback,
      List.take_append_of_le_length (Nat.sub_le _ _)]

end Path

namespace Config

/-- What a search finds in a settings file: nothing if there is no file that can be opened or it is
not TOML, a fault that ends the search, or the content. -/
inductive Reads (h : Host) (file : Path) : Except SearchError (Option Value) → Prop where
  | closed {fault : SystemFault} (hfile : h.readBytes file.text = .error fault)
      (hfault : fault ≠ .nameTooLong) : Reads h file (.ok none)
  | tooLong (hfile : h.readBytes file.text = .error .nameTooLong) :
      Reads h file (.error (.unreachable ⟨.nameTooLong, file.text⟩))
  | encoding {bytes : List UInt8} {fault : Text.Utf8.Fault}
      (hfile : h.readBytes file.text = .ok bytes)
      (hdecode : Text.Utf8.decode bytes = .error fault) :
      Reads h file (.error (.encoding fault))
  | malformed {bytes : List UInt8} {text : List Char}
      (hfile : h.readBytes file.text = .ok bytes) (hdecode : Text.Utf8.decode bytes = .ok text)
      (hread : Toml.read h.calls text = .error .malformed) : Reads h file (.ok none)
  | tooManyDigits {bytes : List UInt8} {text : List Char} {count : Nat}
      (hfile : h.readBytes file.text = .ok bytes) (hdecode : Text.Utf8.decode bytes = .ok text)
      (hread : Toml.read h.calls text = .error (.tooManyDigits count)) :
      Reads h file (.error (.tooManyDigits count))
  | tooDeep {bytes : List UInt8} {text : List Char}
      (hfile : h.readBytes file.text = .ok bytes) (hdecode : Text.Utf8.decode bytes = .ok text)
      (hread : Toml.read h.calls text = .error .tooDeep) : Reads h file (.error .tooDeep)
  | content {bytes : List UInt8} {text : List Char} {v : Value}
      (hfile : h.readBytes file.text = .ok bytes) (hdecode : Text.Utf8.decode bytes = .ok text)
      (hread : Toml.read h.calls text = .ok v) : Reads h file (.ok (some v))

theorem reads_contentOf (h : Host) (file : Path) : Reads h file (contentOf h file) := by
  unfold contentOf
  split
  · rename_i htarget
    exact .tooLong (by simp [Host.readBytes, htarget])
  · rename_i bytes htarget
    have hfile : h.readBytes file.text = .ok bytes := by simp [Host.readBytes, htarget]
    split
    · rename_i hdecode
      exact .encoding hfile hdecode
    · rename_i hdecode
      split
      · rename_i hread
        exact .content hfile hdecode hread
      · rename_i hread
        exact .malformed hfile hdecode hread
      · rename_i hread
        exact .tooManyDigits hfile hdecode hread
      · rename_i hread
        exact .tooDeep hfile hdecode hread
  · rename_i hlong hother
    cases htarget : h.target file.text with
    | error fault =>
        refine .closed (by simp [Host.readBytes, htarget]; rfl) ?_
        rintro rfl
        exact hlong htarget
    | ok node =>
        cases node with
        | file bytes => exact absurd htarget (hother bytes)
        | directory => exact .closed (by simp [Host.readBytes, htarget]; rfl) (by simp)
        | link target => exact .closed (by simp [Host.readBytes, htarget]; rfl) (by simp)

/-- A file is read in one way only. -/
theorem Reads.contentOf_eq {h : Host} {file : Path} {r : Except SearchError (Option Value)}
    (hr : Reads h file r) : contentOf h file = r := by
  have hcontent := reads_contentOf h file
  generalize contentOf h file = s at hcontent
  cases hr <;> cases hcontent <;> simp_all

/-- A table of a settings file, in which settings can stand. -/
structure Candidate where
  file : Path
  table : List String

/-- The tables that are looked for in one directory. -/
def tablesIn (directory : Path) : List Candidate :=
  [⟨directory.child "pyproject.toml".toList, ["tool", "stylex-fold"]⟩,
    ⟨directory.child ".stylex-fold.toml".toList, ["stylex-fold"]⟩,
    ⟨directory.child ".stylex-fold.toml".toList, ["tool", "stylex-fold"]⟩]

/-- The tables that a search looks for, in order: those of a directory, then those of the
directories above it up to the top. -/
def searchOrder (directory : Path) : List Candidate :=
  tablesIn directory ++ if directory.names = [] then [] else searchOrder directory.parent
termination_by directory.names.length
decreasing_by
  have hpos : 0 < directory.names.length := List.length_pos_iff.mpr ‹_›
  simp only [Path.parent, List.length_dropLast]
  omega

theorem searchOrder_top (root : Path.Root) : searchOrder ⟨root, []⟩ = tablesIn ⟨root, []⟩ := by
  rw [searchOrder, if_pos rfl, List.append_nil]

theorem searchOrder_concat (root : Path.Root) (names : List Name) (last : Name) :
    searchOrder ⟨root, names ++ [last]⟩ =
      tablesIn ⟨root, names ++ [last]⟩ ++ searchOrder ⟨root, names⟩ := by
  have hparent : Path.parent ⟨root, names ++ [last]⟩ = ⟨root, names⟩ := by simp [Path.parent]
  rw [searchOrder, if_neg (by simp), hparent]

namespace Candidate

variable (h : Host) (c : Candidate)

/-- The value of a table, if its file can be opened and is TOML and has the table. -/
def value? : Option Value := do
  let bytes ← (h.readBytes c.file.text).toOption
  let text ← (Text.Utf8.decode bytes).toOption
  let document ← (Toml.read h.calls text).toOption
  document.lookupPath? c.table

/-- Whether the path of the file is too long for the system. -/
def isTooLong : Bool :=
  match h.readBytes c.file.text with
  | .error .nameTooLong => true
  | _ => false

/-- Whether the file cannot be opened, or is UTF-8 that is read as a table or refused as TOML. -/
def isLegible : Bool :=
  match h.readBytes c.file.text with
  | .error _ => true
  | .ok bytes =>
      match Text.Utf8.decode bytes with
      | .error _ => false
      | .ok text =>
          match Toml.read h.calls text with
          | .error (.tooManyDigits _) => false
          | .error .tooDeep => false
          | _ => true

/-- Whether a search is over at a table. -/
def isLast : Bool := c.isTooLong h || (c.value? h).isSome

/-- The table alone, in the form in which a search takes files with their tables. -/
def entry : Path × List (List String) := (c.file, [c.table])

variable {h c}

theorem ofFile_of_value? {v : Value} (hv : c.value? h = some v) :
    ofFile h c.file [c.table] =
      ((ofTable v c.file.toString c.table).map some).mapError .refused := by
  simp only [value?, Option.bind_eq_bind, Option.bind_eq_some_iff] at hv
  obtain ⟨bytes, hbytes, text, htext, document, hdocument, hfound⟩ := hv
  have hcontent : Reads h c.file (.ok (some document)) :=
    .content (Stages.eq_ok_of_toOption hbytes) (Stages.eq_ok_of_toOption htext)
      (Stages.eq_ok_of_toOption hdocument)
  simp [ofFile, hcontent.contentOf_eq, ofTables, hfound]

theorem ofFile_of_isTooLong (hc : c.isTooLong h = true) :
    ofFile h c.file [c.table] = .error (.unreachable ⟨.nameTooLong, c.file.text⟩) := by
  unfold isTooLong at hc
  split at hc
  · rename_i hfile
    rw [ofFile, (Reads.tooLong hfile).contentOf_eq]
  · cases hc

theorem ofFile_of_passed (hl : c.isLegible h = true) (hc : c.isLast h = false) :
    ofFile h c.file [c.table] = .ok none := by
  have hread := reads_contentOf h c.file
  rw [ofFile]
  generalize contentOf h c.file = r at hread
  cases hread with
  | closed => rfl
  | malformed => rfl
  | tooLong hfile => simp [isLast, isTooLong, hfile] at hc
  | encoding hfile hdecode => simp [isLegible, hfile, hdecode] at hl
  | tooManyDigits hfile hdecode hread => simp [isLegible, hfile, hdecode, hread] at hl
  | tooDeep hfile hdecode hread => simp [isLegible, hfile, hdecode, hread] at hl
  | content hfile hdecode hread =>
      have hnone := (Bool.or_eq_false_iff.mp hc).2
      simp only [value?, hfile, hdecode, hread, Except.toOption, Option.bind_eq_bind,
        Option.bind_some, Option.isSome_eq_false_iff, Option.isNone_iff_eq_none] at hnone
      simp [ofTables, hnone]

end Candidate

section

variable {h : Host} {directory start : Path}

/-- Files are looked at one after the other as long as none holds settings. -/
theorem firstAmong_append (files others : List (Path × List (List String))) :
    firstAmong h (files ++ others) =
      match firstAmong h files with
      | .ok none => firstAmong h others
      | result => result := by
  induction files with
  | nil => rfl
  | cons entry rest ih =>
      obtain ⟨file, tables⟩ := entry
      rw [List.cons_append, firstAmong, firstAmong]
      split
      · rfl
      · rfl
      · exact ih

/-- The tables of a file can be looked for one at a time. -/
theorem firstAmong_cons_cons (file : Path) (table : List String) (tables : List (List String))
    (rest : List (Path × List (List String))) :
    firstAmong h ((file, table :: tables) :: rest) =
      firstAmong h ((file, [table]) :: (file, tables) :: rest) := by
  simp only [firstAmong, ofFile]
  cases hcontent : contentOf h file with
  | error e => rfl
  | ok content =>
      cases content with
      | none => rfl
      | some v =>
          cases hfound : v.lookupPath? table with
          | none => simp [ofTables, hfound]
          | some found =>
              simp only [ofTables, hfound]
              cases ofTable found file.toString table <;> rfl

theorem firstAmong_places (rest : List (Path × List (List String))) :
    firstAmong h (places.map (fun place => (directory.child place.name, place.tables)) ++ rest) =
      firstAmong h ((tablesIn directory).map Candidate.entry ++ rest) := by
  simp only [places, tablesIn, Candidate.entry, List.map_cons, List.map_nil, List.cons_append,
    List.nil_append]
  rw [firstAmong, firstAmong_cons_cons]
  rfl

/-- A search looks for one table after the other in the order of `searchOrder`. -/
theorem firstAmong_candidates (h : Host) (directory : Path) :
    firstAmong h (candidates directory) =
      firstAmong h ((searchOrder directory).map Candidate.entry) := by
  obtain ⟨root, names⟩ := directory
  induction names using List.reverseRecOn with
  | nil =>
      have htop : Path.ancestors ⟨root, []⟩ = [⟨root, []⟩] := rfl
      rw [candidates, htop, List.flatMap_cons, List.flatMap_nil, firstAmong_places, searchOrder_top,
        List.append_nil]
  | append_singleton names last ih =>
      rw [candidates, Path.ancestors_concat, List.flatMap_cons, firstAmong_places, ← candidates,
        searchOrder_concat, List.map_append, firstAmong_append, firstAmong_append, ih]

/-- Tables that are legible and where a search is not over are passed over. -/
theorem firstAmong_of_passed {passed : List Candidate}
    (hpassed : ∀ b ∈ passed, b.isLegible h = true ∧ b.isLast h = false) :
    firstAmong h (passed.map Candidate.entry) = .ok none := by
  induction passed with
  | nil => rfl
  | cons b rest ih =>
      obtain ⟨⟨hlegible, hlast⟩, hrest⟩ := List.forall_mem_cons.mp hpassed
      rw [List.map_cons, Candidate.entry, firstAmong, Candidate.ofFile_of_passed hlegible hlast]
      exact ih hrest

theorem search_of_resolve (hstart : h.resolve false start = .ok directory) :
    search h start =
      (firstAmong h (candidates directory)).map fun found => (found.map normalize).getD {} := by
  simp only [search, hstart, Stages.mapError_ok]
  cases hfound : firstAmong h (candidates directory) with
  | error e => simp [bind, Except.bind, Except.map, hfound]
  | ok found => cases found <;> simp [bind, Except.bind, Except.map, pure, Except.pure, hfound]

variable (h directory) in
/-- A search gets as far as a table: the tables before it are legible, and the search is over at
none of them. -/
structure Reaches (before : List Candidate) (c : Candidate) (after : List Candidate) : Prop where
  order : searchOrder directory = before ++ c :: after
  passed : ∀ b ∈ before, b.isLegible h = true ∧ b.isLast h = false

variable {before after : List Candidate} {c : Candidate}

/-- What is found on the way up is found from the table on that the search gets to. -/
theorem Reaches.firstAmong_eq (hc : Reaches h directory before c after) :
    firstAmong h (candidates directory) = firstAmong h (c.entry :: after.map Candidate.entry) := by
  rw [firstAmong_candidates, hc.order, List.map_append, firstAmong_append,
    firstAmong_of_passed hc.passed, List.map_cons]

theorem Reaches.search_of_value? (hc : Reaches h directory before c after)
    (hstart : h.resolve false start = .ok directory) {v : Value} (hv : c.value? h = some v) :
    search h start = ((ofTable v c.file.toString c.table).map normalize).mapError .refused := by
  rw [search_of_resolve hstart, hc.firstAmong_eq, Candidate.entry, firstAmong,
    Candidate.ofFile_of_value? hv]
  cases ofTable v c.file.toString c.table <;> rfl

theorem Reaches.search_of_isTooLong (hc : Reaches h directory before c after)
    (hstart : h.resolve false start = .ok directory) (hlong : c.isTooLong h = true) :
    search h start = .error (.unreachable ⟨.nameTooLong, c.file.text⟩) := by
  rw [search_of_resolve hstart, hc.firstAmong_eq, Candidate.entry, firstAmong,
    Candidate.ofFile_of_isTooLong hlong]
  rfl

/-- A search has the same outcome on a host where the tables up to the last one are the same. -/
theorem Reaches.search_congr {other : Host} (hc : Reaches h directory before c after)
    (hlast : c.isLast h = true) (hstart : h.resolve false start = .ok directory)
    (hother : other.resolve false start = .ok directory)
    (hsame : ∀ b ∈ before ++ [c], b.isLegible other = true ∧ b.isTooLong other = b.isTooLong h ∧
      b.value? other = b.value? h) : search other start = search h start := by
  have hreaches : Reaches other directory before c after := by
    refine ⟨hc.order, ?_⟩
    intro b hb
    obtain ⟨hlegible, hlong, hvalue⟩ := hsame b (by simp [hb])
    refine ⟨hlegible, ?_⟩
    rw [Candidate.isLast, hlong, hvalue]
    exact (hc.passed b hb).2
  obtain ⟨-, hlong, hvalue⟩ := hsame c (by simp)
  rcases Bool.or_eq_true_iff.mp hlast with htoolong | hsome
  · rw [hc.search_of_isTooLong hstart htoolong,
      hreaches.search_of_isTooLong hother (hlong.trans htoolong)]
  · obtain ⟨v, hv⟩ := Option.isSome_iff_exists.mp hsome
    rw [hc.search_of_value? hstart hv, hreaches.search_of_value? hother (hvalue.trans hv)]

/-- Something is found, or the search fails, at a table where it is over. -/
theorem Reaches.firstAmong_ne_none (hc : Reaches h directory before c after)
    (hlast : c.isLast h = true) : firstAmong h (candidates directory) ≠ .ok none := by
  rw [hc.firstAmong_eq, Candidate.entry, firstAmong]
  rcases Bool.or_eq_true_iff.mp hlast with hlong | hsome
  · rw [Candidate.ofFile_of_isTooLong hlong]
    simp
  · obtain ⟨v, hv⟩ := Option.isSome_iff_exists.mp hsome
    rw [Candidate.ofFile_of_value? hv]
    cases ofTable v c.file.toString c.table <;> simp [Except.map]

/-- Nothing is found exactly when the search is over at none of the tables. -/
theorem firstAmong_eq_none_iff (hlegible : ∀ c ∈ searchOrder directory, c.isLegible h = true) :
    firstAmong h (candidates directory) = .ok none ↔
      ∀ c ∈ searchOrder directory, c.isLast h = false := by
  constructor
  · intro hnone
    by_contra hsome
    obtain ⟨c, hfound⟩ : ∃ c, (searchOrder directory).find? (·.isLast h) = some c := by
      rw [← Option.isSome_iff_exists, List.find?_isSome]
      simpa using hsome
    obtain ⟨hlast, before, after, horder, hnot⟩ := List.find?_eq_some_iff_append.mp hfound
    have hreaches : Reaches h directory before c after :=
      ⟨horder, fun b hb => ⟨hlegible b (by simp [horder, hb]), by simpa using hnot b hb⟩⟩
    exact hreaches.firstAmong_ne_none hlast hnone
  · intro hlast
    rw [firstAmong_candidates]
    exact firstAmong_of_passed fun c hc => ⟨hlegible c hc, hlast c hc⟩

/-- A search from a path that resolves goes through the tables in order. If the first of them at
which it is over can be read, its value decides: it gives the settings, or it is refused. If the
path of the file is too long instead, the search fails there. What comes after that table makes no
difference. The defaults count when the search is over at none of the tables, and only then are
none found. -/
theorem search_decided (hstart : h.resolve false start = .ok directory)
    (hlegible : ∀ c ∈ searchOrder directory, c.isLegible h = true) :
    (∀ before c after, searchOrder directory = before ++ c :: after →
      (∀ b ∈ before, b.isLast h = false) →
        (∀ v, c.value? h = some v →
          search h start =
            ((ofTable v c.file.toString c.table).map normalize).mapError .refused) ∧
        (c.isTooLong h = true →
          search h start = .error (.unreachable ⟨.nameTooLong, c.file.text⟩)) ∧
        (c.isLast h = true → ∀ other : Host, other.resolve false start = .ok directory →
          (∀ b ∈ before ++ [c], b.isLegible other = true ∧ b.isTooLong other = b.isTooLong h ∧
            b.value? other = b.value? h) →
          search other start = search h start)) ∧
      ((∀ c ∈ searchOrder directory, c.isLast h = false) ↔
        firstAmong h (candidates directory) = .ok none) ∧
      ((∀ c ∈ searchOrder directory, c.isLast h = false) → search h start = .ok {}) := by
  refine ⟨?_, (firstAmong_eq_none_iff hlegible).symm, ?_⟩
  · intro before c after horder hnot
    have hreaches : Reaches h directory before c after :=
      ⟨horder, fun b hb => ⟨hlegible b (by simp [horder, hb]), hnot b hb⟩⟩
    refine ⟨fun v hv => hreaches.search_of_value? hstart hv,
      hreaches.search_of_isTooLong hstart, ?_⟩
    intro hlast other hother hsame
    exact hreaches.search_congr hlast hstart hother hsame
  · intro hnone
    rw [search_of_resolve hstart, (firstAmong_eq_none_iff hlegible).mpr hnone]
    rfl

end

/-- A host on which the nearest settings files are no TOML and without a table for settings. -/
def settingsAbove : Host where
  tree := ⟨[(["a".toList], .directory),
    (["a".toList, "pyproject.toml".toList], .file "x = ".toUTF8.toList),
    (["a".toList, ".stylex-fold.toml".toList], .file "[other]\n".toUTF8.toList),
    (["pyproject.toml".toList], .file "[tool.stylex-fold]\nmax_line_length = 7\n".toUTF8.toList)]⟩
  current := []

/-- The same host with a later file that is not even UTF-8. -/
def settingsBelowRubble : Host :=
  { settingsAbove with
    tree := ⟨([".stylex-fold.toml".toList], .file [0xFF]) :: settingsAbove.tree.entries⟩ }

/-- The table that decides on these hosts. -/
def decidingTable : Candidate :=
  ⟨.absolute ["pyproject.toml".toList], ["tool", "stylex-fold"]⟩

theorem search_decided_settingsAbove :
    settingsAbove.resolve false (.absolute ["a".toList]) = .ok (.absolute ["a".toList]) ∧
      (∀ c ∈ searchOrder (.absolute ["a".toList]), c.isLegible settingsAbove = true) ∧
      (∃ c, search settingsAbove (.absolute ["a".toList]) = .ok c ∧ c.maxLineLength = .int 7) ∧
      search settingsBelowRubble (.absolute ["a".toList]) =
        search settingsAbove (.absolute ["a".toList]) := by
  have hstart : settingsAbove.resolve false (.absolute ["a".toList]) =
      .ok (.absolute ["a".toList]) := by
    decide +kernel
  have horder : searchOrder (.absolute ["a".toList]) =
      tablesIn (.absolute ["a".toList]) ++ tablesIn (.absolute []) :=
    (searchOrder_concat .top [] _).trans (congrArg _ (searchOrder_top .top))
  have hlegible : ∀ c ∈ searchOrder (.absolute ["a".toList]), c.isLegible settingsAbove = true := by
    rw [horder]
    decide +kernel
  have hbefore : ∀ b ∈ tablesIn (.absolute ["a".toList]), b.isLast settingsAbove = false := by
    decide +kernel
  obtain ⟨hdecides, -⟩ := search_decided hstart hlegible
  obtain ⟨hvalue, -, hsame⟩ := hdecides _ decidingTable _ horder hbefore
  refine ⟨hstart, hlegible, ?_, ?_⟩
  · obtain ⟨v, hv, hsettings⟩ : ∃ v, decidingTable.value? settingsAbove = some v ∧
        ((ofTable v decidingTable.file.toString decidingTable.table).toOption.any fun c =>
          c.maxLineLength.isInt 7) = true := (Option.any_eq_true _ _).mp (by decide +kernel)
    obtain ⟨c, hc, hlimit⟩ := Stages.exists_eq_ok_of_any hsettings
    refine ⟨c.normalize, ?_, ?_⟩
    · rw [hvalue v hv, hc]
      rfl
    · exact Value.isInt_eq_true_iff.mp hlimit
  · have hbytes : ∀ b ∈ tablesIn (.absolute ["a".toList]) ++ [decidingTable],
        b.isLegible settingsBelowRubble = true ∧
          settingsBelowRubble.readBytes b.file.text = settingsAbove.readBytes b.file.text := by
      decide +kernel
    apply hsame (by decide +kernel) settingsBelowRubble (by decide +kernel)
    intro b hb
    obtain ⟨hlegible, hsame⟩ := hbytes b hb
    have hcalls : settingsBelowRubble.calls = settingsAbove.calls := rfl
    simp [hlegible, Candidate.isTooLong, Candidate.value?, hsame, hcalls]

/-- A host without any file. -/
def bareHost : Host where
  tree := {}
  current := []

/-- A name of one byte more than a name can have. -/
def longName : Name := List.replicate 256 'm'

/-- Below a name that is too long no settings file exists, and yet the defaults do not count. -/
theorem search_longName :
    bareHost.resolve false ⟨.here, [longName]⟩ = .ok (.absolute [longName]) ∧
      (∀ c ∈ searchOrder (.absolute [longName]),
        c.isLegible bareHost = true ∧ c.value? bareHost = none) ∧
      search bareHost ⟨.here, [longName]⟩ = .error (.unreachable
        ⟨.nameTooLong, ((Path.absolute [longName]).child "pyproject.toml".toList).text⟩) := by
  have horder : searchOrder (.absolute [longName]) =
      tablesIn (.absolute [longName]) ++ tablesIn (.absolute []) :=
    (searchOrder_concat .top [] _).trans (congrArg _ (searchOrder_top .top))
  have hstart : bareHost.resolve false ⟨.here, [longName]⟩ = .ok (.absolute [longName]) := by
    decide +kernel
  have hnone : ∀ c ∈ searchOrder (.absolute [longName]),
      c.isLegible bareHost = true ∧ (c.value? bareHost).isNone = true := by
    rw [horder]
    decide +kernel
  refine ⟨hstart, fun c hc => (hnone c hc).imp_right Option.isNone_iff_eq_none.mp, ?_⟩
  have hreaches : Reaches bareHost (.absolute [longName]) []
      ⟨(Path.absolute [longName]).child "pyproject.toml".toList, ["tool", "stylex-fold"]⟩ _ :=
    ⟨horder, by simp⟩
  exact hreaches.search_of_isTooLong hstart (by decide +kernel)

end Config

end Foldline
