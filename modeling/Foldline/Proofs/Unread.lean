import Foldline.Proofs.Removal
import Foldline.Proofs.Search

/-! # A search without one of its files

A settings file that cannot be opened or is not TOML might as well not be there: a search has the
same outcome when it is taken out of the file tree. One that is not UTF-8 is not passed over like
this: a search that gets to it fails. The same goes for one with too long a number or with values
nested too deep. -/

namespace Foldline

open SystemFault (IsMissing)

namespace Config

section

variable {h other : Host} {file start directory : Path} {gone : Location}
  {r : Except SearchError (Option Value)}

/-- What a search finds in a file depends on the bytes and on the room for calls alone, the path of
a fault apart. -/
theorem contentOf_congr {place : Path}
    (hsame : other.readBytes place.text = h.readBytes file.text)
    (hlong : h.readBytes file.text = .error .nameTooLong → place = file)
    (hcalls : other.calls = h.calls) : contentOf other place = contentOf h file := by
  have hread := reads_contentOf h file
  generalize contentOf h file = r at hread ⊢
  apply Reads.contentOf_eq
  cases hread with
  | closed hfile hfault => exact .closed (hsame.trans hfile) hfault
  | tooLong hfile =>
      obtain rfl := hlong hfile
      exact .tooLong (hsame.trans hfile)
  | encoding hfile hdecode => exact .encoding (hsame.trans hfile) hdecode
  | malformed hfile hdecode hread =>
      exact .malformed (hsame.trans hfile) hdecode (hcalls ▸ hread)
  | tooManyDigits hfile hdecode hread =>
      exact .tooManyDigits (hsame.trans hfile) hdecode (hcalls ▸ hread)
  | tooDeep hfile hdecode hread => exact .tooDeep (hsame.trans hfile) hdecode (hcalls ▸ hread)
  | content hfile hdecode hread => exact .content (hsame.trans hfile) hdecode (hcalls ▸ hread)

theorem contentOf_of_isMissing (hmissing : IsMissing (h.readBytes file.text)) :
    contentOf h file = .ok none := by
  rcases hmissing with hmissing | hmissing
  · exact (Reads.closed hmissing (by simp)).contentOf_eq
  · exact (Reads.closed hmissing (by simp)).contentOf_eq

/-- Without a dead end, nothing is found in the file that was there and all else as before. -/
theorem contentOf_without {node : Node} (hdead : h.tree.IsDeadEnd gone node) (place : Path) :
    contentOf (h.without gone) place = contentOf h place ∨
      contentOf (h.without gone) place = .ok none ∧
        ∃ bytes, node = .file bytes ∧ h.readBytes place.text = .ok bytes := by
  rcases h.readBytes_without gone place.text with hsame | ⟨hmissing, hend⟩
  · exact .inl (contentOf_congr hsame (fun _ => rfl) rfl)
  · have hnone := contentOf_of_isMissing hmissing
    rcases hend node hdead with hfile | ⟨fault, hclosed, hfault⟩
    · exact .inr ⟨hnone, hfile⟩
    · exact .inl (hnone.trans (Reads.closed hclosed hfault).contentOf_eq.symm)

/-- If all files are found as before but for some without content, so are the settings, or the fault
in one of those files was what ended the search. -/
theorem firstAmong_of_unread {files : List (Path × List (List String))}
    (hr : ∀ v, r ≠ .ok (some v))
    (hfiles : ∀ entry ∈ files, contentOf other entry.1 = contentOf h entry.1 ∨
      contentOf other entry.1 = .ok none ∧ contentOf h entry.1 = r) :
    firstAmong other files = firstAmong h files ∨
      ∃ e, r = .error e ∧ firstAmong h files = .error e := by
  induction files with
  | nil => exact .inl rfl
  | cons entry rest ih =>
      obtain ⟨file, tables⟩ := entry
      obtain ⟨hentry, hrest⟩ := List.forall_mem_cons.mp hfiles
      rw [firstAmong, firstAmong]
      rcases hentry with hsame | ⟨hnone, hfound⟩
      · have hfile : ofFile other file tables = ofFile h file tables := by
          rw [ofFile, ofFile, hsame]
        rw [hfile]
        split
        · exact .inl rfl
        · exact .inl rfl
        · exact ih hrest
      · rw [ofFile, ofFile, hnone, hfound]
        cases r with
        | error e => exact .inr ⟨e, rfl, rfl⟩
        | ok content =>
            cases content with
            | none => exact ih hrest
            | some v => exact absurd rfl (hr v)

theorem isPlain_of_mem_places {place : Place} (hplace : place ∈ places) :
    Path.IsPlain place.name := by
  rcases List.mem_pair.mp hplace with rfl | rfl
  · constructor <;> decide
  · constructor <;> decide

/-- A search looks at files with plain names in the directory or above. -/
theorem exists_of_mem_candidates {tables : List (List String)}
    (hfile : (file, tables) ∈ candidates directory) :
    ∃ base below name, directory.names = base ++ below ∧ Path.IsPlain name ∧
      file = ⟨directory.root, base ++ [name]⟩ := by
  obtain ⟨above, habove, hfile⟩ := List.mem_flatMap.mp hfile
  obtain ⟨up, -, rfl⟩ := List.mem_map.mp habove
  obtain ⟨place, hplace, hentry⟩ := List.mem_map.mp hfile
  cases hentry
  exact ⟨_, _, place.name, (List.take_append_drop _ _).symm, isPlain_of_mem_places hplace, rfl⟩

variable (h file start directory gone) in
/-- Without what stands at a place, a search starts at the same directory as before and finds in all
settings files but one what it found before. -/
structure Spares : Prop where
  resolve : (h.without gone).resolve false start = .ok directory
  others : ∀ entry ∈ candidates directory, entry.1 ≠ file →
    (h.without gone).readBytes entry.1.text = h.readBytes entry.1.text

variable (h file start directory gone) in
/-- What is taken out at the path of a settings file: the file that it leads to, or the link there,
if it does not lead anywhere and the search starts at a place that exists. Anything else is only
taken out if nothing else that the search looks at goes with it. -/
inductive TakesOut : Prop where
  | file {bytes : List UInt8} (hfile : h.locate true file.text = .ok (gone, .file bytes))
  | link {tables : List (List String)} {target : List Char} {fault : SystemFault}
      (hfile : (file, tables) ∈ candidates directory)
      (hlink : h.locate false file.text = .ok (gone, .link target))
      (hlost : h.locate true file.text = .error fault) (hfault : fault ≠ .nameTooLong)
      (hstart : h.Arrives start directory)
  | other (hspares : Spares h file start directory gone)

/-- A settings path at which there is a link that leads nowhere is a dead end. -/
theorem isDeadEnd_of_candidate {tables : List (List String)} {target : List Char}
    {fault : SystemFault} (hfile : (file, tables) ∈ candidates directory)
    (hlink : h.locate false file.text = .ok (gone, .link target))
    (hlost : h.locate true file.text = .error fault) (hfault : fault ≠ .nameTooLong)
    (hstart : h.Arrives start directory) : h.tree.IsDeadEnd gone (.link target) := by
  obtain ⟨place, node, rfl, hleads⟩ :=
    Host.leads_of_resolve hstart.placed hstart.noSlash hstart.resolved
  obtain ⟨base, below, name, hplace, hname, rfl⟩ := exists_of_mem_candidates hfile
  obtain rfl : place = base ++ below := hplace
  obtain ⟨found, hbase⟩ := hleads.isLed_of_append
  exact Host.isDeadEnd_of_locate hstart.placed hbase hname hlink hlost hfault

/-- A search has the same outcome without a file that has no content, or the fault in the file was
its outcome. -/
theorem search_without (hstart : h.resolve false start = .ok directory)
    (hread : Reads h file r) (hr : ∀ v, r ≠ .ok (some v))
    (hgone : TakesOut h file start directory gone) :
    search (h.without gone) start = search h start ∨
      ∃ e, r = .error e ∧ search h start = .error e := by
  have hfound : (h.without gone).resolve false start = .ok directory ∧
      ∀ entry ∈ candidates directory, contentOf (h.without gone) entry.1 = contentOf h entry.1 ∨
        contentOf (h.without gone) entry.1 = .ok none ∧ contentOf h entry.1 = r := by
    cases hgone with
    | @file bytes hfile =>
        have hnode := Host.node?_of_locate hfile
        have hbytes : h.readBytes file.text = .ok bytes := by
          simp [Host.readBytes, Host.target, hfile, Except.map]
        refine ⟨(Host.resolve_without hnode start).trans hstart, fun entry _ => ?_⟩
        rcases contentOf_without (h.tree.isDeadEnd_file gone hnode) entry.1 with
          hsame | ⟨hnone, _, heq, hentry⟩
        · exact .inl hsame
        · cases heq
          refine .inr ⟨hnone, ?_⟩
          rw [← hread.contentOf_eq]
          exact contentOf_congr (hentry.trans hbytes.symm) (by simp [hbytes]) rfl
    | link hfile hlink hlost hfault harrives =>
        have hdead := isDeadEnd_of_candidate hfile hlink hlost hfault harrives
        refine ⟨harrives.resolve_without hdead hstart, fun entry _ => ?_⟩
        rcases contentOf_without hdead entry.1 with hsame | ⟨-, _, heq, -⟩
        · exact .inl hsame
        · cases heq
    | other hspares =>
        refine ⟨hspares.resolve, fun entry hentry => ?_⟩
        by_cases hfile : entry.1 = file
        · rw [hfile, hread.contentOf_eq]
          rcases h.readBytes_without gone file.text with hsame | ⟨hmissing, -⟩
          · exact .inl ((contentOf_congr hsame (fun _ => rfl) rfl).trans hread.contentOf_eq)
          · exact .inr ⟨contentOf_of_isMissing hmissing, rfl⟩
        · exact .inl (contentOf_congr (hspares.others entry hentry hfile) (fun _ => rfl) rfl)
  rw [search_of_resolve hstart, search_of_resolve hfound.1]
  rcases firstAmong_of_unread hr hfound.2 with hsame | ⟨e, he, hfails⟩
  · exact .inl (by rw [hsame])
  · exact .inr ⟨e, he, by rw [hfails]; rfl⟩

/-- A search that gets to a file with a fault ends with the fault. -/
theorem search_of_reads_error {before after : List (Path × List (List String))}
    {tables : List (List String)} {e : SearchError}
    (hstart : h.resolve false start = .ok directory)
    (horder : candidates directory = before ++ (file, tables) :: after)
    (hbefore : firstAmong h before = .ok none) (hread : Reads h file (.error e)) :
    search h start = .error e := by
  rw [search_of_resolve hstart, horder, firstAmong_append, hbefore]
  simp only [firstAmong, ofFile, hread.contentOf_eq]
  rfl

/-- A settings file that cannot be opened or is not TOML has no effect on a search: without it the
outcome is the same. A file with a fault, one that is not UTF-8 among them, is not passed over:
where the search gets to it, the outcome is that fault. Otherwise it has no effect either. -/
theorem search_without_unread (hstart : h.resolve false start = .ok directory)
    (hgone : TakesOut h file start directory gone) :
    (Reads h file (.ok none) → search (h.without gone) start = search h start) ∧
      ∀ e, Reads h file (.error e) →
        (search (h.without gone) start = search h start ∨ search h start = .error e) ∧
          ∀ before tables after, candidates directory = before ++ (file, tables) :: after →
            firstAmong h before = .ok none → search h start = .error e := by
  refine ⟨fun hread => ?_, fun e hread => ⟨?_, ?_⟩⟩
  · rcases search_without hstart hread (by simp) hgone with hsame | ⟨e, he, -⟩
    · exact hsame
    · cases he
  · rcases search_without hstart hread (by simp) hgone with hsame | ⟨_, he, hfails⟩
    · exact .inl hsame
    · cases he
      exact .inr hfails
  · intro before tables after horder hbefore
    exact search_of_reads_error hstart horder hbefore hread

end

/-- The place of the nearer settings file of a directory. -/
def nearProject : Location := ["b".toList, "pyproject.toml".toList]

/-- The place of the other settings file of the directory. -/
def nearDotfile : Location := ["b".toList, ".stylex-fold.toml".toList]

/-- The place of the first settings file in the directory above. -/
def upperProject : Location := ["pyproject.toml".toList]

/-- A host on which the nearest settings files are a directory, a file that is not TOML and a link
to nowhere. A link leads to their directory. -/
def settingsAboveUnread : Host where
  tree := ⟨[(["a".toList], .link "b".toList),
    (["b".toList], .directory),
    (nearProject, .directory),
    (nearDotfile, .file "x = ".toUTF8.toList),
    (upperProject, .link "b/missing".toList),
    ([".stylex-fold.toml".toList], .file "[stylex-fold]\nmax_line_length = 7\n".toUTF8.toList)]⟩
  current := []

theorem search_without_unread_settingsAboveUnread :
    settingsAboveUnread.resolve false (.absolute ["a".toList]) = .ok (.absolute ["b".toList]) ∧
      ∀ gone ∈ [nearProject, nearDotfile, upperProject],
        search (settingsAboveUnread.without gone) (.absolute ["a".toList]) =
          search settingsAboveUnread (.absolute ["a".toList]) := by
  have hstart : settingsAboveUnread.resolve false (.absolute ["a".toList]) =
      .ok (.absolute ["b".toList]) := by
    decide +kernel
  refine ⟨hstart, List.forall_mem_cons.mpr ⟨?_, List.forall_mem_cons.mpr ⟨?_,
    List.forall_mem_singleton.mpr ?_⟩⟩⟩
  · have hspares : Spares settingsAboveUnread (.absolute nearProject) (.absolute ["a".toList])
        (.absolute ["b".toList]) nearProject :=
      ⟨by decide +kernel, by decide +kernel⟩
    have hclosed : settingsAboveUnread.readBytes (Path.absolute nearProject).text =
        .error .isADirectory := by
      decide +kernel
    exact (search_without_unread hstart (.other hspares)).1 (.closed hclosed (by simp))
  · have hfile : settingsAboveUnread.locate true (Path.absolute nearDotfile).text =
        .ok (nearDotfile, .file "x = ".toUTF8.toList) := by
      decide +kernel
    have hbytes : settingsAboveUnread.readBytes (Path.absolute nearDotfile).text =
        .ok "x = ".toUTF8.toList := by
      decide +kernel
    have hdecode : Text.Utf8.decode "x = ".toUTF8.toList = .ok "x = ".toList := by
      decide +kernel
    have hmalformed : Toml.read settingsAboveUnread.calls "x = ".toList = .error .malformed := by
      have hread : (Toml.read settingsAboveUnread.calls "x = ".toList).map (fun _ => ()) =
          .error .malformed := by
        decide +kernel
      exact Stages.map_eq_error_iff.mp hread
    exact (search_without_unread hstart (.file hfile)).1 (.malformed hbytes hdecode hmalformed)
  · have hlink : settingsAboveUnread.locate false (Path.absolute upperProject).text =
        .ok (upperProject, .link "b/missing".toList) := by
      decide +kernel
    have hlost : settingsAboveUnread.locate true (Path.absolute upperProject).text =
        .error .notFound := by
      decide +kernel
    have harrives : settingsAboveUnread.Arrives (.absolute ["a".toList])
        (.absolute ["b".toList]) :=
      { placed := Host.isPlaced_top rfl
        pieces := by simp [Path.absolute, Path.IsPiece]
        located := ⟨["b".toList], .directory, by decide +kernel⟩
        resolved := by decide +kernel }
    have hclosed : settingsAboveUnread.readBytes (Path.absolute upperProject).text =
        .error .notFound := by
      decide +kernel
    have hfile : (Path.absolute upperProject, [["tool", "stylex-fold"]]) ∈
        candidates (.absolute ["b".toList]) := by
      decide +kernel
    exact (search_without_unread hstart (.link hfile hlink hlost (by simp) harrives)).1
      (.closed hclosed (by simp))

/-- A host whose one settings file is not UTF-8. -/
def rubbleHost : Host where
  tree := ⟨[(["pyproject.toml".toList], .file [0xFF])]⟩
  current := []

/-- A settings file that is not UTF-8 ends a search that gives the defaults without it. -/
theorem search_rubbleHost :
    ∃ fault, Text.Utf8.decode [0xFF] = .error fault ∧
      search rubbleHost (.absolute []) = .error (.encoding fault) ∧
      search (rubbleHost.without ["pyproject.toml".toList]) (.absolute []) = .ok {} := by
  obtain ⟨fault, hfault⟩ : ∃ fault, Text.Utf8.decode [0xFF] = .error fault := ⟨_, rfl⟩
  refine ⟨fault, hfault, ?_, ?_⟩
  · have hstart : rubbleHost.resolve false (.absolute []) = .ok (.absolute []) := by decide +kernel
    have horder : candidates (.absolute []) =
        [] ++ (.absolute ["pyproject.toml".toList], [["tool", "stylex-fold"]]) :: _ := rfl
    exact search_of_reads_error hstart horder rfl (.encoding (by decide +kernel) hfault)
  · have hstart : (rubbleHost.without ["pyproject.toml".toList]).resolve false (.absolute []) =
        .ok (.absolute []) := by
      decide +kernel
    have hpassed : ∀ c ∈ searchOrder (.absolute []),
        c.isLegible (rubbleHost.without ["pyproject.toml".toList]) = true ∧
          c.isLast (rubbleHost.without ["pyproject.toml".toList]) = false := by
      rw [Path.absolute, searchOrder_top]
      decide +kernel
    rw [search_of_resolve hstart, firstAmong_candidates, firstAmong_of_passed hpassed]
    rfl

end Config

end Foldline
