import Foldline.Proofs.Command
import Foldline.Proofs.SamePlace

/-! # The file that is checked and the file that is scanned

The operand of the command is looked at twice. First the system walks along the text as it is
written, to see that there is a file; then the path is resolved, name by name, and what it resolves
to is scanned. Both get to the same place. But a tilde in front is a name to the system and a home
directory to the command, and then the file that is scanned is the one that the path from the home
directory leads to. -/

namespace Foldline

namespace Host

variable {h : Host} {p : Path}

/-- A path that does not start with a tilde is taken as it is. -/
theorem expandHome?_of_not_tilde (htilde : ∀ user rest, p ≠ ⟨.here, ('~' :: user) :: rest⟩) :
    h.expandHome? p = some p := by
  obtain ⟨root, names⟩ := p
  unfold expandHome?
  split
  · rename_i first rest hroot hnames
    cases hroot
    cases hnames
    refine if_neg fun hhead => ?_
    obtain ⟨user, rfl⟩ := List.head?_eq_some_iff.mp (beq_iff_eq.mp hhead)
    exact htilde user rest rfl
  · rfl

end Host

namespace Command

open Arguments (Parses)

/-- The check of an operand passes for a place that is no directory. -/
theorem locate_of_checkFile {h : Host} {file : String} (hfile : checkFile h file = .ok ()) :
    ∃ place node, h.locate true file.toList = .ok (place, node) ∧ node ≠ .directory := by
  unfold checkFile at hfile
  split at hfile
  · cases hfile
  · cases hlocate : h.locate true file.toList with
    | error fault =>
        rw [Host.target, hlocate] at hfile
        cases hfile
    | ok found =>
        obtain ⟨place, node⟩ := found
        refine ⟨place, node, rfl, ?_⟩
        rintro rfl
        rw [Host.target, hlocate] at hfile
        cases hfile

/-- A run that succeeds has checked one place and scanned the file that the path of its operand
resolves to, with the home directory in the place of a tilde. Without a tilde the file that is
scanned is what the check has found at this place. With one, it is what the check would find with
the path from the home directory written out. -/
theorem run_scans {h : Host} {arguments : List String} {a : Arguments} (hplaced : h.IsPlaced)
    (ha : Parses arguments a) (hcode : (run h arguments).exitCode = 0) :
    ∃ file path p c d request place node, a.operands = [file] ∧
      checkFile h file = .ok () ∧ h.locate true file.toList = .ok (place, node) ∧
      node ≠ .directory ∧ Answers h (a.invocation file) p c d request ∧
      h.expandHome? (Path.ofText file.toList) = some path ∧
      ((∀ user rest, Path.ofText file.toList ≠ ⟨.here, ('~' :: user) :: rest⟩) →
        p = .absolute place ∧ h.target p.text = .ok node) ∧
      ∀ other found, h.locate true path.text = .ok (other, found) →
        p = .absolute other ∧ h.target p.text = .ok found := by
  obtain ⟨file, p, c, d, request, hoperands, hfile, hanswers⟩ := ha.exitCode_eq_zero_iff.mp hcode
  obtain ⟨place, node, hlocate, hnode⟩ := locate_of_checkFile hfile
  obtain ⟨path, bytes, _, hpath, hresolve, htarget, -⟩ :=
    Source.accept_eq_ok_iff.mp hanswers.prepares.accepted
  have hsize : Text.Utf8.size p.text ≤ FileTree.maxPathSize := by
    obtain ⟨_, hlocate, -⟩ := Stages.map_eq_ok_iff.mp htarget
    exact Host.size_le_of_locate hlocate
  have hpieces := Host.isPiece_of_expandHome? hpath
  refine ⟨file, path, p, c, d, request, place, node, hoperands, hfile, hlocate, hnode, hanswers,
    hpath, ?_, ?_⟩
  · intro htilde
    have hsame : Path.ofText file.toList = path :=
      Option.some.inj ((Host.expandHome?_of_not_tilde htilde).symm.trans hpath)
    subst hsame
    exact Host.resolve_of_locate (Path.kept_ofText _).symm (Path.isAbsolute_ofText _).symm hlocate
      hplaced hpieces hresolve hsize
  · intro other found hother
    exact Host.resolve_of_locate (Path.kept_namesIn_text hpieces) (Path.head?_text hpieces) hother
      hplaced hpieces hresolve hsize

/-- A host with a file in the home directory, where a directory is called like a tilde and has a
file of the same name in it, and a link to this one. -/
def tildeDirectory : Host where
  tree := ⟨[(["a.ts".toList], .file "const x = 1;\n".toUTF8.toList),
    (["~".toList], .directory),
    (["~".toList, "a.ts".toList],
      .file "const s = stylex.create(\x7b\n  a: \x7b\n  \x7d,\n\x7d);\n".toUTF8.toList),
    (["link.ts".toList], .link ".//~/./a.ts".toList)]⟩
  current := []
  home := some ['/']

theorem run_scans_tildeDirectory :
    tildeDirectory.IsPlaced ∧ Parses ["link.ts"] ⟨[], ["link.ts"]⟩ ∧
      (run tildeDirectory ["link.ts"]).exitCode = 0 ∧
      ∃ p c d request,
        Answers tildeDirectory (Arguments.invocation ⟨[], ["link.ts"]⟩ "link.ts") p c d request ∧
          p = .absolute ["~".toList, "a.ts".toList] := by
  have hplaced : tildeDirectory.IsPlaced := Host.isPlaced_top rfl
  have ha : Parses ["link.ts"] ⟨[], ["link.ts"]⟩ :=
    ⟨by decide +kernel, by decide +kernel, by decide +kernel⟩
  have hcode : (run tildeDirectory ["link.ts"]).exitCode = 0 := by decide +kernel
  have hplace : (tildeDirectory.locate true "link.ts".toList).map (·.1) =
      .ok ["~".toList, "a.ts".toList] := by
    decide +kernel
  obtain ⟨file, path, p, c, d, request, place, node, hoperands, -, hlocate, -, hanswers, -, hscans,
    -⟩ := run_scans hplaced ha hcode
  cases hoperands
  rw [hlocate] at hplace
  cases hplace
  refine ⟨hplaced, ha, hcode, p, c, d, request, hanswers, (hscans fun user rest heq => ?_).1⟩
  have hfirst : (Path.ofText "link.ts".toList).names.head?.bind List.head? = some 'l' := by
    decide +kernel
  rw [heq] at hfirst
  simp at hfirst

/-- With a tilde in front, one file is checked and another one scanned. -/
theorem run_tildeDirectory :
    (run tildeDirectory ["~/a.ts"]).exitCode = 0 ∧ checkFile tildeDirectory "~/a.ts" = .ok () ∧
      (tildeDirectory.locate true "~/a.ts".toList).map (·.1) = .ok ["~".toList, "a.ts".toList] ∧
      ∀ p c d request,
        Answers tildeDirectory (Arguments.invocation ⟨[], ["~/a.ts"]⟩ "~/a.ts") p c d request →
          p = .absolute ["a.ts".toList] := by
  refine ⟨by decide +kernel, by decide +kernel, by decide +kernel, ?_⟩
  intro p c d request hanswers
  obtain ⟨path, _, _, hpath, hresolve, -⟩ :=
    Source.accept_eq_ok_iff.mp hanswers.prepares.accepted
  have hhome : tildeDirectory.expandHome? (Path.ofText "~/a.ts".toList) =
      some (.absolute ["a.ts".toList]) := by
    decide +kernel
  cases hhome.symm.trans hpath
  have hsame : tildeDirectory.resolve true (.absolute ["a.ts".toList]) =
      .ok (.absolute ["a.ts".toList]) := by
    decide +kernel
  exact (Except.ok.inj (hsame.symm.trans hresolve)).symm

end Command

end Foldline
