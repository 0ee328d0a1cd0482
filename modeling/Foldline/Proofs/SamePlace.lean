import Foldline.Proofs.Route

/-! # Walks and routes get to the same place

The system walks along a text, and a resolution goes along the names of a path. Where the text and
the path have the same names, both get to the same place.

## Implementation notes

The walk and the resolution take the same names in the same order, but for empty names and dots: a
path drops its dots when it is read, and the target of a link keeps its empty names in a resolution.
So the two are compared by the names that neither of them skips (`kept`), one step of the route at a
time. -/

namespace Foldline

namespace Path

/-- The names that lead on, without empty ones and dots. -/
def kept (names : List Name) : List Name := names.filter fun name => !(name.isEmpty || name == dot)

variable {name : Name} {rest : List Name}

theorem kept_cons_of_skip (hskip : (name.isEmpty || name == dot) = true) :
    kept (name :: rest) = kept rest := by
  rw [kept, List.filter_cons_of_neg (by simp [hskip])]
  rfl

theorem kept_cons (hskip : ¬ (name.isEmpty || name == dot) = true) :
    kept (name :: rest) = name :: kept rest := by
  rw [kept, List.filter_cons_of_pos (by simpa using hskip)]
  rfl

theorem kept_append (names more : List Name) : kept (names ++ more) = kept names ++ kept more :=
  List.filter_append ..

theorem kept_namesIn (text : List Char) : kept (namesIn text) = kept (Text.cutAt '/' text) := by
  rw [kept, namesIn, List.filter_filter, kept]
  congr 1
  funext name
  cases name.isEmpty <;> simp

theorem kept_ofText (text : List Char) : kept (ofText text).names = kept (namesIn text) := by
  rw [kept, ofText, List.filter_filter, kept]
  congr 1
  funext name
  by_cases hdot : name = dot <;> simp [hdot]

theorem isAbsolute_ofText (text : List Char) :
    (ofText text).isAbsolute = (text.head? == some '/') := by
  rw [ofText, isAbsolute]
  dsimp only
  unfold rootOf
  split
  · rfl
  · rfl
  · rfl
  · rename_i htop
    cases text with
    | nil => rfl
    | cons c rest =>
        have hc : c ≠ '/' := fun heq => htop rest (by rw [heq])
        simp [hc]

/-- The text of a path is read as the path, up to names that are skipped. -/
theorem kept_namesIn_text {p : Path} (hnames : ∀ name ∈ p.names, IsPiece name) :
    kept (namesIn p.text) = kept p.names := by
  obtain ⟨root, names⟩ := p
  cases root with
  | here =>
      by_cases hempty : names = []
      · subst hempty
        rfl
      · rw [text, if_neg (by simpa using hempty), namesIn_joinNames hnames]
  | top => rw [text, namesIn_slash, namesIn_joinNames hnames]
  | doubleTop => rw [text, namesIn_slash, namesIn_slash, namesIn_joinNames hnames]

theorem head?_text {p : Path} (hnames : ∀ name ∈ p.names, IsPiece name) :
    (p.text.head? == some '/') = p.isAbsolute := by
  obtain ⟨root, names⟩ := p
  cases root with
  | here =>
      by_cases hempty : names = []
      · subst hempty
        rfl
      · rw [text, if_neg (by simpa using hempty)]
        exact beq_eq_false_iff_ne.mpr (head?_joinNames hnames)
  | top => rfl
  | doubleTop => rfl

end Path

/-! ## A walk of the system, step by step -/

namespace FileTree

/-- Following no more links than it may, the system gets from a place along names to a goal. -/
def Finds (t : FileTree) (place : Location) (names : List Name) (goal : Location) : Prop :=
  ∃ onlyDirectory links node, links ≤ maxLinks ∧
    t.find true onlyDirectory links place names = .ok (goal, node)

namespace Finds

variable {t : FileTree} {place goal : Location} {name : Name} {names rest : List Name}

theorem of_walk {other : Location} {more : List Name} (hfinds : t.Finds place names goal)
    (hwalk : t.walk true place names = t.walk true other more) : t.Finds other more goal := by
  obtain ⟨onlyDirectory, links, node, hlinks, hfind⟩ := hfinds
  exact ⟨onlyDirectory, links, node, hlinks, (find_congr hwalk).symm.trans hfind⟩

/-- There are names to go along only in a directory. -/
theorem node?_eq (hfinds : t.Finds place (name :: rest) goal) :
    t.node? place = some .directory := by
  obtain ⟨onlyDirectory, links, node, -, hfind⟩ := hfinds
  by_contra hplace
  rw [find.eq_def] at hfind
  simp [walk, hplace] at hfind

theorem nil (hfinds : t.Finds place [] goal) : goal = place := by
  obtain ⟨onlyDirectory, links, node, -, hfind⟩ := hfinds
  rw [find.eq_def] at hfind
  cases hnode : t.node? place with
  | none => simp [walk, hnode] at hfind
  | some found =>
      simp only [walk, hnode] at hfind
      split at hfind
      · cases hfind
      · cases hfind
        rfl

theorem dot (hfinds : t.Finds place (Path.dot :: rest) goal) : t.Finds place rest goal := by
  have hplace := hfinds.node?_eq
  exact hfinds.of_walk (by simp [walk, hplace])

theorem up (hfinds : t.Finds place (Path.dotDot :: rest) goal) :
    t.Finds place.dropLast rest goal := by
  have hplace := hfinds.node?_eq
  exact hfinds.of_walk (by simp [walk, hplace, Path.dot, Path.dotDot])

section

variable (hname : Path.IsPlain name) (hsize : Text.Utf8.size name ≤ maxNameSize)

include hname hsize

theorem down {node : Node} (hnode : t.node? (place ++ [name]) = some node)
    (hlink : ∀ target, node ≠ .link target) (hfinds : t.Finds place (name :: rest) goal) :
    t.Finds (place ++ [name]) rest goal := by
  have hplace := hfinds.node?_eq
  apply hfinds.of_walk
  cases node with
  | link target => exact absurd rfl (hlink target)
  | _ => simp [walk, hplace, hname.ne_dot, hname.ne_dotDot, Nat.not_lt.mpr hsize, hnode]

/-- At a link the system goes on along its target. -/
theorem link {target : List Char} (hnode : t.node? (place ++ [name]) = some (.link target))
    (hfinds : t.Finds place (name :: rest) goal) :
    t.Finds (if target.head? == some '/' then [] else place) (Path.namesIn target ++ rest)
      goal := by
  have hplace := hfinds.node?_eq
  obtain ⟨onlyDirectory, links, node, hlinks, hfind⟩ := hfinds
  have hwalk := walk_of_link hplace hname hsize hnode rest
  cases links with
  | zero => cases (find_zero_of_walk_link hwalk).symm.trans hfind
  | succ links =>
      rw [find_succ_of_walk_link hwalk, Bool.true_or] at hfind
      exact ⟨_, _, _, Nat.le_of_succ_le hlinks, hfind⟩

end

/-- Dots make no difference up to the first name that leads on, or to the end. -/
theorem head_cases (hnames : ∀ name ∈ names, name ≠ []) (hfinds : t.Finds place names goal) :
    Path.kept names = [] ∧ goal = place ∨
      ∃ name rest, Path.kept names = name :: Path.kept rest ∧ t.Finds place (name :: rest) goal ∧
        ∀ name ∈ rest, name ≠ [] := by
  induction names with
  | nil => exact .inl ⟨rfl, hfinds.nil⟩
  | cons first rest ih =>
      obtain ⟨hfirst, hrest⟩ := List.forall_mem_cons.mp hnames
      by_cases hskip : (first.isEmpty || first == Path.dot) = true
      · have hdot : first = Path.dot := by simpa [hfirst] using hskip
        rw [Path.kept_cons_of_skip hskip]
        exact ih hrest (hdot ▸ hfinds).dot
      · exact .inr ⟨first, rest, Path.kept_cons hskip, hfinds, hrest⟩

end Finds

end FileTree

/-! ## A walk and a route -/

namespace Resolve

open StateTransition (Reaches)

/-- The system gets to a goal from where a leg is, along names that differ from those of the leg
only in names that are skipped. -/
def GoesTo (h : Host) (goal : Location) (a : Leg) : Prop :=
  ∃ place node names, Leads h a.1 place node ∧ Path.kept names = Path.kept a.2 ∧
    (∀ name ∈ names, name ≠ []) ∧ h.tree.Finds place names goal

variable {h : Host} {goal place : Location} {node : Node} {trail : Trail} {name : Name}
  {rest : List Name} {a b : Leg}

/-- If the next name of a leg leads on, it is the next one that the system looks for. -/
theorem GoesTo.exists_cons (hskip : ¬ (name.isEmpty || name == Path.dot) = true)
    (ha : GoesTo h goal (trail, name :: rest)) :
    ∃ place node more, Leads h trail place node ∧ Path.kept more = Path.kept rest ∧
      (∀ name ∈ more, name ≠ []) ∧ h.tree.Finds place (name :: more) goal := by
  obtain ⟨place, node, names, hleads, hkept, hnames, hfinds⟩ := ha
  rw [Path.kept_cons hskip] at hkept
  rcases hfinds.head_cases hnames with ⟨hnone, -⟩ | ⟨first, more, hfirst, hfinds, hmore⟩
  · cases hnone.symm.trans hkept
  · obtain ⟨rfl, hsame⟩ := List.cons.inj (hfirst.symm.trans hkept)
    exact ⟨place, node, more, hleads, hsame, hmore, hfinds⟩

/-- With a step of the route the system comes closer to its goal. -/
theorem GoesTo.hop (hplaced : h.IsPlaced) (hled : IsLegLed h a) (ha : GoesTo h goal a)
    (hhop : hop? h a = some b) : GoesTo h goal b := by
  -- Over a skipped name the leg goes on alone; any other name is the next one of the walk as well.
  cases Hops.of_hop? hhop with
  | skip hskip =>
      obtain ⟨place, node, names, hleads, hkept, hnames, hfinds⟩ := ha
      exact ⟨place, node, names, hleads, hkept.trans (Path.kept_cons_of_skip hskip), hnames, hfinds⟩
  | up hskip hup =>
      obtain ⟨place, node, more, hleads, hkept, hmore, hfinds⟩ := ha.exists_cons hskip
      rw [beq_iff_eq.mp hup] at hfinds
      exact ⟨_, _, more, hleads.up, hkept, hmore, hfinds.up⟩
  | down hname hentry hlink =>
      obtain ⟨place, node, more, hleads, hkept, hmore, hfinds⟩ := ha.exists_cons hname.notSkipped
      have hplain := hname.isPlain (hled.2 _ List.mem_cons_self)
      obtain ⟨-, hsize, hnode⟩ := hleads.node?_of_entry hplaced hplain hentry
      exact ⟨_, _, more, hleads.down_of_entry hplaced hplain hentry hlink, hkept, hmore,
        hfinds.down hplain hsize hnode hlink⟩
  | @link _ _ _ target hlink =>
      obtain ⟨place, node, more, hleads, hkept, hmore, hfinds⟩ := ha.exists_cons hlink.notSkipped
      have hplain := hlink.isPlain (hled.2 _ List.mem_cons_self)
      obtain ⟨-, hsize, hnode⟩ := hleads.node?_of_entry hplaced hplain hlink.entry
      obtain ⟨found, hfound⟩ := hleads.linkStart target
      refine ⟨_, found, Path.namesIn target ++ more, hfound, ?_, ?_, hfinds.link hplain hsize hnode⟩
      · rw [Path.kept_append, Path.kept_append, Path.kept_namesIn, hkept]
      · intro piece hpiece
        rcases List.mem_append.mp hpiece with hpiece | hpiece
        · exact (Path.isPiece_of_mem_namesIn hpiece).1
        · exact hmore piece hpiece

theorem GoesTo.reaches (hplaced : h.IsPlaced) (hled : IsLegLed h a) (ha : GoesTo h goal a)
    (hroute : Reaches (hop? h) a b) : GoesTo h goal b := by
  induction hroute with
  | refl => exact ha
  | tail hroute hhop ih => exact ih.hop hplaced (hled.reaches hplaced hroute) hhop

/-- At the end of the route the system is at its goal. -/
theorem GoesTo.eq_of_leads (hplaced : h.IsPlaced) (ha : GoesTo h goal (trail, []))
    (hleads : Leads h trail place node) : goal = place := by
  obtain ⟨other, found, names, hother, hkept, hnames, hfinds⟩ := ha
  rcases hfinds.head_cases hnames with ⟨-, hgoal⟩ | ⟨first, more, hfirst, -⟩
  · rw [hgoal, ← hother.flatten_eq hplaced, hleads.flatten_eq hplaced]
  · cases hfirst.symm.trans hkept

end Resolve

namespace Host

variable {h : Host} {p q : Path} {text : List Char} {place : Location} {node : Node}

theorem finds_of_locate (hlocate : h.locate true text = .ok (place, node)) :
    h.tree.Finds (if text.head? == some '/' then [] else h.current) (Path.namesIn text) place := by
  unfold locate at hlocate
  split at hlocate
  · cases hlocate
  split at hlocate
  · cases hlocate
  · exact ⟨_, _, node, Nat.le_refl _, hlocate⟩

section

variable (hkept : Path.kept (Path.namesIn text) = Path.kept p.names)
  (htop : (text.head? == some '/') = p.isAbsolute)
  (hlocate : h.locate true text = .ok (place, node))

include hkept htop hlocate

theorem goesTo_of_locate : Resolve.GoesTo h place (Resolve.pathLeg p) := by
  obtain ⟨found, hfound⟩ := Resolve.leads_pathLeg h p
  have hfinds := finds_of_locate hlocate
  rw [htop] at hfinds
  exact ⟨_, found, _, hfound, hkept, fun name hname => (Path.isPiece_of_mem_namesIn hname).1,
    hfinds⟩

/-- A text and a path with the same names, but for skipped ones, lead to the same place: the one for
the system, the other by resolution. -/
theorem resolve_of_locate (hplaced : h.IsPlaced) (hnames : ∀ name ∈ p.names, Path.IsPiece name)
    (hq : h.resolve true p = .ok q)
    (hsize : Text.Utf8.size q.text ≤ FileTree.maxPathSize) :
    q = .absolute place ∧ h.target q.text = .ok node := by
  have hslash : ∀ name ∈ p.names, '/' ∉ name := fun name hname => (hnames name hname).2
  obtain ⟨trail, goal, found, hroute, hleads, rfl⟩ := reaches_of_resolve hplaced hslash hq
  have hstart := goesTo_of_locate hkept htop hlocate
  have hend := hstart.reaches hplaced (Resolve.isLegLed_pathLeg hslash) hroute
  have hplace := hend.eq_of_leads hplaced hleads
  subst hplace
  have hnode : found = node :=
    Option.some.inj ((hleads.node?_eq hplaced).symm.trans (node?_of_locate hlocate))
  subst hnode
  exact ⟨rfl, target_of_leads hplaced (hleads.fromTop hplaced) hsize⟩

end

end Host

end Foldline
