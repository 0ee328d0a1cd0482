import Foldline.Proofs.SamePlace

/-! # Trees without one of their places

What happens to a walk and to a resolution when something is taken out of the file tree. Where
nothing leads on from a place, it is not missed on the way to any other place. A file is such a
dead end, and so is a link whose target does not exist.

## Implementation notes

Every lemma about a tree without a place has the same form: the outcome is as before, or the place
is missing now. For a dead end it also says what the outcome was before (`Lost`). -/

namespace Foldline

/-- A place does not exist: there is nothing at it, or something on the way is no directory. -/
def SystemFault.IsMissing {α : Type} (found : Except SystemFault α) : Prop :=
  found = .error .notFound ∨ found = .error .notADirectory

open SystemFault (IsMissing)

namespace FileTree

/-- A tree without what stands at a place. What is below a directory can no longer be reached. -/
def without (t : FileTree) (gone : Location) : FileTree :=
  ⟨t.entries.filter fun e => e.1 != gone⟩

variable (t : FileTree) (gone : Location)

/-- Only the place itself is affected. -/
theorem node?_without (place : Location) :
    (t.without gone).node? place = t.node? place ∨
      place = gone ∧ (t.without gone).node? place = none := by
  have hlookup (entries : List (Location × Node)) (hne : place ≠ gone) :
      (entries.filter fun e => e.1 != gone).lookup place = entries.lookup place := by
    induction entries with
    | nil => rfl
    | cons e rest ih =>
        obtain ⟨other, node⟩ := e
        by_cases hother : other = gone
        · have hplace : (place == gone) = false := beq_eq_false_iff_ne.mpr hne
          simp [hother, List.lookup_cons, hplace, ih]
        · simp [hother, List.lookup_cons, ih]
  by_cases htop : place = []
  · exact .inl (by simp [node?, htop])
  by_cases hplace : place = gone
  · refine .inr ⟨hplace, ?_⟩
    have hnone : (t.entries.filter fun e => e.1 != gone).lookup gone = none := by
      rw [List.lookup_eq_none_iff]
      intro e he
      exact bne_iff_ne.mpr (Ne.symm (bne_iff_ne.mp (List.mem_filter.mp he).2))
    simp [node?, hplace ▸ htop, without, hplace, hnone]
  · exact .inl (by rw [node?, without, hlookup _ hplace, node?])

variable {t gone} {node : Node}

/-- How a walk ends that comes to a place with no directory at it: there, or with no way on, or at a
link that has to be followed. -/
inductive ComesTo (gone : Location) (node : Node) (follow : Bool) :
    Except SystemFault Stop → Prop where
  | ends : ComesTo gone node follow (.ok (.node gone node))
  | blocked : ComesTo gone node follow (.error .notADirectory)
  | link {target : List Char} {rest : List Name} (hlink : node = .link target)
      (hon : rest ≠ [] ∨ follow = true) :
      ComesTo gone node follow (.ok (.link gone.dropLast target rest))

theorem comesTo_walk (hnode : t.node? gone = some node) (hdirectory : node ≠ .directory)
    (follow : Bool) (names : List Name) : ComesTo gone node follow (t.walk follow gone names) := by
  cases names with
  | nil =>
      simp only [walk, hnode]
      exact .ends
  | cons name rest =>
      rw [walk, hnode, if_pos (by simpa using hdirectory)]
      exact .blocked

variable (t gone)

/-- A walk is the same without a place, or it gets to what is missing. If there was no directory at
the place, the walk came to it before. -/
theorem walk_without (follow : Bool) (place : Location) (names : List Name) :
    (t.without gone).walk follow place names = t.walk follow place names ∨
      IsMissing ((t.without gone).walk follow place names) ∧
        ∀ node, t.node? gone = some node → node ≠ .directory →
          ComesTo gone node follow (t.walk follow place names) := by
  induction names generalizing place with
  | nil =>
      rcases node?_without t gone place with hsame | ⟨rfl, hnone⟩
      · exact .inl (by simp [walk, hsame])
      · exact .inr ⟨.inl (by simp [walk, hnone]),
          fun node hnode hdirectory => comesTo_walk hnode hdirectory follow []⟩
  | cons name rest ih =>
      rcases node?_without t gone place with hsame | ⟨rfl, hnone⟩
      · simp only [walk, hsame]
        split
        · exact .inl rfl
        split
        · exact ih place
        split
        · exact ih place.dropLast
        split
        · exact .inl rfl
        rcases node?_without t gone (place ++ [name]) with hchild | ⟨rfl, hnone⟩
        · rw [hchild]
          split
          · exact .inl rfl
          · exact .inl rfl
          · exact ih (place ++ [name])
        · rw [hnone]
          refine .inr ⟨.inl rfl, fun node hnode hdirectory => ?_⟩
          rw [hnode]
          cases node with
          | directory => exact absurd rfl hdirectory
          | file bytes => exact comesTo_walk hnode hdirectory follow rest
          | link target =>
              dsimp only
              split
              · exact .ends
              · rename_i hon
                have hlink : ComesTo (place ++ [name]) (.link target) follow
                    (.ok (.link (place ++ [name]).dropLast target rest)) :=
                  .link rfl (by cases rest <;> simp_all)
                rwa [List.dropLast_concat] at hlink
      · exact .inr ⟨.inr (by simp [walk, hnone]),
          fun node hnode hdirectory => comesTo_walk hnode hdirectory follow (name :: rest)⟩

/-! ## Dead ends -/

/-- There is no way on from a place: what stands there is no directory, and if it is a link, the
system fails to follow it, but not because of a name that is too long. -/
structure IsDeadEnd (t : FileTree) (gone : Location) (node : Node) : Prop where
  stands : t.node? gone = some node
  ne_directory : node ≠ .directory
  lost : ∀ target, node = .link target → ∃ fault,
    t.find true (target.getLast? == some '/') (maxLinks - 1)
        (if target.head? == some '/' then [] else gone.dropLast) (Path.namesIn target) =
      .error fault ∧ fault ≠ .nameTooLong

theorem isDeadEnd_file {bytes : List UInt8} (hfile : t.node? gone = some (.file bytes)) :
    t.IsDeadEnd gone (.file bytes) :=
  ⟨hfile, by simp, by simp⟩

variable {t gone}

/-- What the system made of a way to a dead end. -/
inductive Lost (gone : Location) (node : Node) :
    Except SystemFault (Location × Node) → Prop where
  | found : Lost gone node (.ok (gone, node))
  | blocked : Lost gone node (.error .notADirectory)
  | link {target : List Char} {fault : SystemFault} (hlink : node = .link target)
      (hfault : fault ≠ .nameTooLong) : Lost gone node (.error fault)

section

variable {follow onlyDirectory : Bool} {links : Nat} {place : Location} {names rest : List Name}
  {target : List Char}

/-- A walk that has to follow a dead link fails. -/
theorem IsDeadEnd.find_of_walk (hdead : t.IsDeadEnd gone (.link target))
    (hwalk : t.walk follow place names = .ok (.link gone.dropLast target rest))
    (hon : rest ≠ [] ∨ follow = true) (hlinks : links ≤ maxLinks) :
    ∃ fault, t.find follow onlyDirectory links place names = .error fault ∧
      fault ≠ .nameTooLong := by
  obtain ⟨fault, hlost, hfault⟩ := hdead.lost target rfl
  cases links with
  | zero => exact ⟨.tooManyLinks, find_zero_of_walk_link hwalk, by simp⟩
  | succ links =>
      rw [find_succ_of_walk_link hwalk]
      refine find_append_of_error hlost hfault (Nat.le_pred_of_lt hlinks) ?_
      by_cases hrest : rest = []
      · have hfollow : follow = true := hon.resolve_left (by simp [hrest])
        exact .inr ⟨by simp [hfollow], fun hslash => by simp [hrest, hslash]⟩
      · exact .inl hrest

theorem IsDeadEnd.lost_find (hdead : t.IsDeadEnd gone node)
    (hcomes : ComesTo gone node follow (t.walk follow place names)) (hlinks : links ≤ maxLinks) :
    Lost gone node (t.find follow onlyDirectory links place names) := by
  generalize hwalk : t.walk follow place names = stop at hcomes
  cases hcomes with
  | ends =>
      rw [find_of_walk_node hwalk]
      split
      · exact .blocked
      · exact .found
  | blocked =>
      rw [find_of_walk_error hwalk]
      exact .blocked
  | link hlink hon =>
      subst hlink
      obtain ⟨fault, hfind, hfault⟩ := hdead.find_of_walk hwalk hon hlinks
      rw [hfind]
      exact .link rfl hfault

end

variable (t gone)

theorem find_without (follow onlyDirectory : Bool) {links : Nat} (hlinks : links ≤ maxLinks)
    (place : Location) (names : List Name) :
    (t.without gone).find follow onlyDirectory links place names =
        t.find follow onlyDirectory links place names ∨
      IsMissing ((t.without gone).find follow onlyDirectory links place names) ∧
        ∀ node, t.IsDeadEnd gone node →
          Lost gone node (t.find follow onlyDirectory links place names) := by
  induction links using Nat.strongRecOn generalizing follow onlyDirectory place names with
  | ind links ih =>
      rcases walk_without t gone follow place names with hsame | ⟨hmissing, hcomes⟩
      · rw [find.eq_def, find.eq_def t]
        dsimp only
        rw [hsame]
        split
        · exact .inl rfl
        · exact .inl rfl
        · cases links with
          | zero => exact .inl rfl
          | succ links =>
              exact ih links (Nat.lt_succ_self links) _ _ (Nat.le_of_succ_le hlinks) _ _
      · refine .inr ⟨hmissing.imp find_of_walk_error find_of_walk_error, fun node hdead => ?_⟩
        exact hdead.lost_find (hcomes node hdead.stands hdead.ne_directory) hlinks

end FileTree

namespace Host

/-- A host without what stands at a place. -/
def without (h : Host) (gone : Location) : Host := { h with tree := h.tree.without gone }

variable (h : Host) (gone : Location)

theorem locate_without (follow : Bool) (path : List Char) :
    (h.without gone).locate follow path = h.locate follow path ∨
      IsMissing ((h.without gone).locate follow path) ∧
        ∀ node, h.tree.IsDeadEnd gone node → FileTree.Lost gone node (h.locate follow path) := by
  unfold locate
  split
  · exact .inl rfl
  split
  · exact .inl rfl
  · exact FileTree.find_without h.tree gone _ _ (Nat.le_refl _) _ _

/-- The bytes of a file are the same without a place, or they are missing now. At a dead end they
were those of the file there, or there were none. -/
theorem readBytes_without (path : List Char) :
    (h.without gone).readBytes path = h.readBytes path ∨
      IsMissing ((h.without gone).readBytes path) ∧
        ∀ node, h.tree.IsDeadEnd gone node →
          (∃ bytes, node = .file bytes ∧ h.readBytes path = .ok bytes) ∨
            ∃ fault, h.readBytes path = .error fault ∧ fault ≠ .nameTooLong := by
  simp only [readBytes, target]
  rcases h.locate_without gone true path with hsame | ⟨hmissing, hlost⟩
  · exact .inl (by rw [hsame])
  · refine .inr ⟨?_, fun node hdead => ?_⟩
    · rcases hmissing with hmissing | hmissing <;> simp [IsMissing, hmissing, Except.map]
    · have hend := hlost node hdead
      generalize h.locate true path = found at hend ⊢
      cases hend with
      | found =>
          cases node with
          | file bytes => exact .inl ⟨bytes, rfl, rfl⟩
          | directory => exact .inr ⟨.isADirectory, rfl, by simp⟩
          | link target => exact .inr ⟨.isADirectory, rfl, by simp⟩
      | blocked => exact .inr ⟨.notADirectory, rfl, by simp⟩
      | link _ hfault => exact .inr ⟨_, rfl, hfault⟩

/-! ## Resolutions without a file -/

section

variable {h gone} {bytes : List UInt8} (hfile : h.tree.node? gone = some (.file bytes))

include hfile

/-- To a lenient resolution a file is as good as nothing. -/
theorem alongNames_without (follow : Resolve.Follow) (names : List Name) (trail : Resolve.Trail)
    (links : Resolve.Links) :
    Resolve.alongNames (h.without gone) false follow names trail links =
      Resolve.alongNames h false follow names trail links := by
  induction names generalizing trail links with
  | nil => rfl
  | cons name rest ih =>
      simp only [Resolve.alongNames, ih, entry, Bool.false_eq_true, if_false]
      rcases h.locate_without gone false (trail.push name).text with hsame | ⟨hmissing, hlost⟩
      · rw [hsame]
      · have hend := hlost _ (h.tree.isDeadEnd_file gone hfile)
        generalize h.locate false (trail.push name).text = found at hend ⊢
        rcases hmissing with hmissing | hmissing <;> cases hend <;> simp_all [Except.map]

theorem followLinks_without (calls : Nat) :
    Resolve.followLinks (h.without gone) false calls = Resolve.followLinks h false calls := by
  induction calls with
  | zero => rfl
  | succ calls ih =>
      funext trail target links
      rw [Resolve.followLinks, Resolve.followLinks, ih, alongNames_without hfile]

/-- A path leads to the same place without a file. -/
theorem resolve_without (p : Path) : (h.without gone).resolve false p = h.resolve false p := by
  have hcalls : (h.without gone).calls = h.calls := rfl
  rw [resolve, resolve, hcalls, followLinks_without hfile, alongNames_without hfile]
  split
  · rfl
  · rename_i result _
    have hpath : result.path (h.without gone) = result.path h := rfl
    simp only [Bool.false_eq_true, if_false, hpath, target]
    rcases h.locate_without gone true (result.path h).text with hsame | ⟨hmissing, hlost⟩
    · rw [hsame]
    · have hend := hlost _ (h.tree.isDeadEnd_file gone hfile)
      generalize h.locate true (result.path h).text = found at hend ⊢
      rcases hmissing with hmissing | hmissing <;> cases hend <;> simp_all [Except.map]

end

/-! ## Resolutions without a dead link -/

/-- A path that exists: the system gets along it, and a strict resolution gets to its end. -/
structure Arrives (h : Host) (start directory : Path) : Prop where
  placed : h.IsPlaced
  pieces : ∀ name ∈ start.names, Path.IsPiece name
  located : ∃ place node, h.locate true start.text = .ok (place, node)
  resolved : h.resolve true start = .ok directory

variable {h gone} {start directory : Path} {target : List Char}

theorem Arrives.noSlash (harrives : h.Arrives start directory) :
    ∀ name ∈ start.names, '/' ∉ name :=
  fun name hname => (harrives.pieces name hname).2

/-- A link at the end of a trail that the system cannot follow is a dead end. -/
theorem isDeadEnd_of_locate {trail : Resolve.Trail} {place : Location} {node : Node} {name : Name}
    {fault : SystemFault} (hplaced : h.IsPlaced) (hleads : Resolve.Leads h trail place node)
    (hname : Path.IsPlain name)
    (hlink : h.locate false (trail.push name).text = .ok (gone, .link target))
    (hlost : h.locate true (trail.push name).text = .error fault) (hfault : fault ≠ .nameTooLong) :
    h.tree.IsDeadEnd gone (.link target) := by
  have hsize := size_le_of_locate hlink
  rw [hleads.locate_push hplaced hname hsize] at hlink hlost
  obtain ⟨hplace, hshort, hnode, rfl⟩ := FileTree.node?_of_find_name hname hlink
  have hwalk := FileTree.walk_of_link hplace hname hshort hnode []
  have hlinks : FileTree.maxLinks = FileTree.maxLinks - 1 + 1 := rfl
  rw [hlinks, FileTree.find_succ_of_walk_link hwalk] at hlost
  refine ⟨hnode, by simp, fun other heq => ⟨fault, ?_, hfault⟩⟩
  cases heq
  simpa using hlost

/-- Where the system gets to its goal, the next name is not that of a dead link. -/
theorem locate_ne_deadLink {goal : Location} {trail : Resolve.Trail} {name : Name}
    {rest : List Name} (hplaced : h.IsPlaced) (hdead : h.tree.IsDeadEnd gone (.link target))
    (hgoes : Resolve.GoesTo h goal (trail, name :: rest)) (hname : Resolve.IsDown trail name)
    (hslash : '/' ∉ name) :
    h.locate false (trail.push name).text ≠ .ok (gone, .link target) := by
  intro hlocate
  have hplain := hname.isPlain hslash
  obtain ⟨place, node, more, hleads, -, -, hfinds⟩ := hgoes.exists_cons hname.notSkipped
  have hentry : h.entry (trail.push name).text = .ok (.link target) :=
    Stages.map_eq_ok_iff.mpr ⟨_, hlocate, rfl⟩
  obtain ⟨hplace, hsize, hnode⟩ := hleads.node?_of_entry hplaced hplain hentry
  have hgone := hleads.location_eq hplaced hplain hlocate
  have hwalk : h.tree.walk true place (name :: more) =
      .ok (.link gone.dropLast target more) := by
    rw [hgone, List.dropLast_concat]
    exact FileTree.walk_of_link hplace hplain hsize hnode more
  obtain ⟨onlyDirectory, links, found, hlinks, hfind⟩ := hfinds
  obtain ⟨fault, hfault, -⟩ := hdead.find_of_walk hwalk (.inr rfl) hlinks
  cases hfault.symm.trans hfind

/-- Along the route to a place that exists, nothing is missed without a dead link. -/
theorem Arrives.agrees (harrives : h.Arrives start directory)
    (hdead : h.tree.IsDeadEnd gone (.link target)) :
    Resolve.Agrees h (h.without gone) (Resolve.pathLeg start) := by
  intro trail name rest hroute hname
  have hplaced := harrives.placed
  have hled := Resolve.isLegLed_pathLeg (h := h) harrives.noSlash
  obtain ⟨goal, node, hlocate⟩ := harrives.located
  have hgoes := goesTo_of_locate (Path.kept_namesIn_text harrives.pieces)
    (Path.head?_text harrives.pieces) hlocate
  obtain ⟨last, _, _, hend, -⟩ := reaches_of_resolve hplaced harrives.noSlash harrives.resolved
  have hdown := locate_ne_deadLink hplaced hdead (hgoes.reaches hplaced hled hroute) hname
    ((hled.reaches hplaced hroute).2 name List.mem_cons_self)
  -- The route gets to its end, so that it is not blocked at this name.
  have hopen (fault : SystemFault) : h.entry (trail.push name).text ≠ .error fault :=
    fun hentry => (Resolve.Blocked.entry hname hentry).not_reaches hroute hend
  rcases h.locate_without gone false (trail.push name).text with hsame | ⟨-, hlost⟩
  · rw [entry, entry, hsame]
  · have hfound := hlost _ hdead
    unfold entry at hopen
    generalize h.locate false (trail.push name).text = found at hfound hdown hopen
    cases hfound with
    | found => exact absurd rfl hdown
    | blocked => exact absurd rfl (hopen _)
    | link => exact absurd rfl (hopen _)

/-- A path that exists leads to the same place without a dead link. -/
theorem Arrives.resolve_without (harrives : h.Arrives start directory)
    (hdead : h.tree.IsDeadEnd gone (.link target))
    (hstart : h.resolve false start = .ok directory) :
    (h.without gone).resolve false start = .ok directory := by
  have hloop : (h.without gone).target directory.text ≠ .error .tooManyLinks := by
    have hbefore := target_of_resolve hstart
    unfold Host.target at hbefore ⊢
    rcases h.locate_without gone true directory.text with hsame | ⟨hmissing, -⟩
    · rwa [hsame]
    · rcases hmissing with hmissing | hmissing <;> simp [hmissing, Except.map]
  have hcurrent : (h.without gone).current = h.current := rfl
  exact resolve_of_agrees hcurrent rfl (harrives.agrees hdead) harrives.resolved hloop

end Host

end Foldline
