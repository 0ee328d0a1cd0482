import Foldline.Proofs.TreeWalk
import Mathlib.Data.List.Induction
import Mathlib.Tactic.SplitIfs

/-! # Where a trail leads

A resolution goes along a trail. Each trail leads to a place that can be walked to from the top by
plain names, with directories all the way and no link on it. A path to such a place resolves to
itself.

## Implementation notes

A trail can be relative, and then its names are names from the current directory on, after as many
double dots as it takes. `Leads` keeps the trail and the place together; each step of a resolution
takes both on, and walking along the trail is walking to the place. -/

namespace Foldline

namespace Host

/-- The current directory is one, and so are the places above it. -/
structure IsPlaced (h : Host) : Prop where
  plain : ∀ name ∈ h.current, Path.IsPlain name
  short : ∀ name ∈ h.current, Text.Utf8.size name ≤ FileTree.maxNameSize
  directories : ∀ place, place <+: h.current → h.tree.node? place = some .directory

/-- At the top there is nothing above the current directory. -/
theorem isPlaced_top {h : Host} (htop : h.current = []) : h.IsPlaced where
  plain := by simp [htop]
  short := by simp [htop]
  directories := by
    intro place hplace
    rw [htop, List.prefix_nil] at hplace
    rw [hplace]
    rfl

end Host

namespace Resolve

variable {h : Host} {trail : Trail} {place : Location} {node : Node} {name : Name}

/-- A trail leads to a place and what stands there. It starts at the top or at the current
directory. From the current directory it can go up first; then it goes down, from directory to
directory and without any link. -/
inductive Leads (h : Host) : Trail → Location → Node → Prop where
  | top : Leads h ⟨true, []⟩ [] .directory
  | here : Leads h ⟨false, []⟩ h.current .directory
  | above {ups : List Name} {place : Location} (hbelow : Leads h ⟨false, ups⟩ place .directory)
      (hups : ∀ name ∈ ups, name = Path.dotDot) :
      Leads h ⟨false, ups ++ [Path.dotDot]⟩ place.dropLast .directory
  | down {trail : Trail} {place : Location} {name : Name} {node : Node}
      (habove : Leads h trail place .directory) (hname : Path.IsPlain name)
      (hsize : Text.Utf8.size name ≤ FileTree.maxNameSize)
      (hnode : h.tree.node? (place ++ [name]) = some node) (hlink : ∀ target, node ≠ .link target) :
      Leads h (trail.push name) (place ++ [name]) node

theorem flatten_plain (hname : Path.IsPlain name) (names : List Name) :
    flatten (names ++ [name]) = flatten names ++ [name] := by
  simp [flatten, hname.ne_nil, hname.ne_dot, hname.ne_dotDot]

theorem flatten_dotDot (names : List Name) :
    flatten (names ++ [Path.dotDot]) = (flatten names).dropLast := by
  simp [flatten, Path.dot, Path.dotDot]

theorem flatten_of_plain {names : List Name} (hnames : ∀ name ∈ names, Path.IsPlain name) :
    flatten names = names := by
  induction names using List.reverseRecOn with
  | nil => rfl
  | append_singleton names name ih =>
      rw [flatten_plain (hnames name (by simp)),
        ih fun name hname => hnames name (List.mem_append_left _ hname)]

/-- A trail from the top has a longer text than the places above. -/
theorem Trail.size_text_le (names more : List Name) :
    Text.Utf8.size (Trail.text ⟨true, names⟩) ≤
      Text.Utf8.size (Trail.text ⟨true, names ++ more⟩) := by
  have hslash (text : List Char) :
      Text.Utf8.size ('/' :: text) = Text.Utf8.size ['/'] + Text.Utf8.size text :=
    Text.Utf8.size_append ['/'] text
  simp only [text, if_true]
  rw [hslash (Path.joinNames names), hslash (Path.joinNames (names ++ more))]
  exact Nat.add_le_add_left (Path.size_joinNames_le names more) _

@[simp] theorem Trail.absolute_up (trail : Trail) : trail.up.absolute = trail.absolute := by
  unfold Trail.up
  split
  · split <;> rfl
  · split <;> rfl

/-- A text of a trail is walked along by the names of the trail. -/
theorem locate_text {follow : Bool} (hpieces : ∀ name ∈ trail.names, Path.IsPiece name)
    (hne : trail.names ≠ []) (hsize : Text.Utf8.size trail.text ≤ FileTree.maxPathSize) :
    h.locate follow trail.text = h.tree.find follow false FileTree.maxLinks
      (if trail.absolute then [] else h.current) trail.names := by
  have hlast := Path.getLast?_joinNames hpieces
  have hhead := Path.head?_joinNames hpieces
  have hjoin := Path.joinNames_ne_nil hpieces hne
  obtain ⟨absolute, names⟩ := trail
  cases absolute with
  | true =>
      simp only [Trail.text, if_true] at hsize ⊢
      rw [Host.locate, if_neg (by simp), if_neg (Nat.not_lt.mpr hsize)]
      simp only [List.getLast?_cons_of_ne_nil hjoin, Path.namesIn_slash,
        Path.namesIn_joinNames hpieces, beq_eq_false_iff_ne.mpr hlast]
      simp
  | false =>
      simp only [Trail.text, Bool.false_eq_true, if_false] at hsize ⊢
      rw [Host.locate, if_neg (by simpa using hjoin), if_neg (Nat.not_lt.mpr hsize)]
      simp only [Path.namesIn_joinNames hpieces, beq_eq_false_iff_ne.mpr hlast,
        beq_eq_false_iff_ne.mpr hhead]
      simp

namespace Leads

/-- What stands at the place is no link. -/
theorem ne_link (hleads : Leads h trail place node) (target : List Char) : node ≠ .link target := by
  cases hleads with
  | down _ _ _ _ hlink => exact hlink target
  | _ => simp

/-- The names of a trail can stand between slashes. -/
theorem isPiece (hleads : Leads h trail place node) : ∀ name ∈ trail.names, Path.IsPiece name := by
  induction hleads with
  | top => simp
  | here => simp
  | above _ _ ih =>
      intro name hname
      rcases List.mem_append.mp hname with hname | hname
      · exact ih name hname
      · rw [List.mem_singleton.mp hname]
        exact ⟨by decide, by decide⟩
  | down _ hplain _ _ _ ih =>
      intro name hname
      rcases List.mem_append.mp hname with hname | hname
      · exact ih name hname
      · rw [List.mem_singleton.mp hname]
        exact hplain.isPiece

theorem isPiece_push (hleads : Leads h trail place node) (hname : Path.IsPlain name) :
    ∀ piece ∈ (trail.push name).names, Path.IsPiece piece := by
  intro piece hpiece
  rcases List.mem_append.mp hpiece with hpiece | hpiece
  · exact hleads.isPiece piece hpiece
  · rw [List.mem_singleton.mp hpiece]
    exact hname.isPiece

/-- Going up on a trail goes up from its place. -/
theorem up (hleads : Leads h trail place node) : Leads h trail.up place.dropLast .directory := by
  cases hleads with
  | top => exact .top
  | here => exact .above .here (by simp)
  | @above ups place hbelow hups =>
      have hup : Trail.up ⟨false, ups ++ [Path.dotDot]⟩ =
          ⟨false, ups ++ [Path.dotDot] ++ [Path.dotDot]⟩ := by
        simp [Trail.up, Trail.push]
      rw [hup]
      apply Leads.above (.above hbelow hups)
      intro name hname
      rcases List.mem_append.mp hname with hname | hname
      · exact hups name hname
      · exact List.mem_singleton.mp hname
  | @down trail place name _ habove hname =>
      have hup : (trail.push name).up = trail := by
        simp [Trail.up, Trail.push, hname.ne_dotDot]
      rw [hup, List.dropLast_concat]
      exact habove

/-- From the top, a trail spells its place. -/
theorem trail_eq (hleads : Leads h trail place node) (htop : trail.absolute = true) :
    trail = ⟨true, place⟩ := by
  induction hleads with
  | top => rfl
  | here => cases htop
  | above => cases htop
  | down _ _ _ _ _ ih => rw [Trail.push, ih htop]

section

variable (hplaced : h.IsPlaced)

include hplaced

/-- The current directory can be walked to from the top. -/
theorem current : Leads h ⟨true, h.current⟩ h.current .directory := by
  suffices hall : ∀ place, place <+: h.current → Leads h ⟨true, place⟩ place .directory from
    hall h.current List.prefix_rfl
  intro place
  induction place using List.reverseRecOn with
  | nil => exact fun _ => .top
  | append_singleton place name ih =>
      intro hprefix
      have hname : name ∈ h.current := hprefix.subset (by simp)
      exact .down (ih ((List.prefix_append place [name]).trans hprefix)) (hplaced.plain name hname)
        (hplaced.short name hname) (hplaced.directories _ hprefix) (by simp)

/-- Where a trail leads can be walked to from the top. -/
theorem fromTop (hleads : Leads h trail place node) : Leads h ⟨true, place⟩ place node := by
  induction hleads with
  | top => exact .top
  | here => exact current hplaced
  | @above ups place _ _ ih =>
      have hup : Trail.up ⟨true, place⟩ = ⟨true, place.dropLast⟩ :=
        ih.up.trail_eq (Trail.absolute_up _)
      exact hup ▸ ih.up
  | down _ hname hsize hnode hlink ih => exact .down ih hname hsize hnode hlink

theorem node?_eq (hleads : Leads h trail place node) : h.tree.node? place = some node := by
  have htop := hleads.fromTop hplaced
  generalize htrail : (⟨true, place⟩ : Trail) = trail at htop
  cases htop with
  | top => rfl
  | here => cases htrail
  | above => cases htrail
  | down _ _ _ hnode => exact hnode

/-- To walk along a trail is to walk to its place. -/
theorem walk_eq (hleads : Leads h trail place node) (follow : Bool) (rest : List Name) :
    h.tree.walk follow (if trail.absolute then [] else h.current) (trail.names ++ rest) =
      h.tree.walk follow place rest := by
  induction hleads generalizing rest with
  | top => rfl
  | here => rfl
  | above hbelow _ ih =>
      have hnode := hbelow.node?_eq hplaced
      rw [List.append_assoc, ih, List.singleton_append]
      simp [FileTree.walk, hnode, Path.dot, Path.dotDot]
  | @down trail place name node habove hname hsize hnode hlink ih =>
      have hplace := habove.node?_eq hplaced
      have hstep : h.tree.walk follow place (name :: rest) =
          h.tree.walk follow (place ++ [name]) rest := by
        cases node with
        | link target => exact absurd rfl (hlink target)
        | _ =>
            simp [FileTree.walk, hplace, hname.ne_dot, hname.ne_dotDot, Nat.not_lt.mpr hsize,
              hnode]
      rw [Trail.push, List.append_assoc, ih, List.singleton_append, hstep]

/-- The text of a trail leads to its place and what stands there. -/
theorem locate_eq (hleads : Leads h trail place node) (hne : trail.names ≠ [])
    (hsize : Text.Utf8.size trail.text ≤ FileTree.maxPathSize) (follow : Bool) :
    h.locate follow trail.text = .ok (place, node) := by
  have hwalk := hleads.walk_eq hplaced follow []
  rw [List.append_nil, FileTree.walk, hleads.node?_eq hplaced] at hwalk
  rw [locate_text hleads.isPiece hne hsize, FileTree.find_of_walk hwalk]

theorem entry_eq (hleads : Leads h trail place node) (hne : trail.names ≠ [])
    (hsize : Text.Utf8.size trail.text ≤ FileTree.maxPathSize) : h.entry trail.text = .ok node := by
  rw [Host.entry, hleads.locate_eq hplaced hne hsize]
  rfl

/-- To ask for a name at the end of a trail is to look for it at the place of the trail. -/
theorem locate_push (hleads : Leads h trail place node) (hname : Path.IsPlain name)
    (hsize : Text.Utf8.size (trail.push name).text ≤ FileTree.maxPathSize) (follow : Bool) :
    h.locate follow (trail.push name).text =
      h.tree.find follow false FileTree.maxLinks place [name] := by
  rw [locate_text (hleads.isPiece_push hname) (by simp [Trail.push]) hsize]
  exact FileTree.find_congr (hleads.walk_eq hplaced follow [name])

/-- What the system finds under a name at the end of a trail stands there in the tree. -/
theorem node?_of_entry (hleads : Leads h trail place node) (hname : Path.IsPlain name)
    {found : Node} (hentry : h.entry (trail.push name).text = .ok found) :
    h.tree.node? place = some .directory ∧ Text.Utf8.size name ≤ FileTree.maxNameSize ∧
      h.tree.node? (place ++ [name]) = some found := by
  obtain ⟨⟨location, _⟩, hlocate, rfl⟩ := Stages.map_eq_ok_iff.mp hentry
  have hsize : Text.Utf8.size (trail.push name).text ≤ FileTree.maxPathSize :=
    Host.size_le_of_locate hlocate
  have hfind := (hleads.locate_push hplaced hname hsize false).symm.trans hlocate
  obtain ⟨hplace, hshort, hnode, -⟩ := FileTree.node?_of_find_name hname hfind
  exact ⟨hplace, hshort, hnode⟩

theorem location_eq (hleads : Leads h trail place node) (hname : Path.IsPlain name)
    {location : Location} {found : Node}
    (hlocate : h.locate false (trail.push name).text = .ok (location, found)) :
    location = place ++ [name] := by
  have hsize := Host.size_le_of_locate hlocate
  have hfind := (hleads.locate_push hplaced hname hsize false).symm.trans hlocate
  exact (FileTree.node?_of_find_name hname hfind).2.2.2

/-- A name under which there is no link leads on. -/
theorem down_of_entry (hleads : Leads h trail place node) (hname : Path.IsPlain name)
    {found : Node} (hentry : h.entry (trail.push name).text = .ok found)
    (hlink : ∀ target, found ≠ .link target) :
    Leads h (trail.push name) (place ++ [name]) found := by
  obtain ⟨hplace, hshort, hnode⟩ := hleads.node?_of_entry hplaced hname hentry
  have hdirectory : node = .directory :=
    Option.some.inj ((hleads.node?_eq hplaced).symm.trans hplace)
  exact .down (hdirectory ▸ hleads) hname hshort hnode hlink

/-- The place of a trail is what is left when its double dots are worked out. -/
theorem flatten_eq (hleads : Leads h trail place node) :
    flatten (if trail.absolute then trail.names else h.current ++ trail.names) = place := by
  induction hleads with
  | top => rfl
  | here =>
      simp only [Bool.false_eq_true, if_false, List.append_nil]
      exact flatten_of_plain hplaced.plain
  | above _ _ ih =>
      simp only [Bool.false_eq_true, if_false] at ih ⊢
      rw [← List.append_assoc, flatten_dotDot, ih]
  | @down trail _ name _ _ hname _ _ _ ih =>
      obtain ⟨absolute, names⟩ := trail
      cases absolute with
      | true =>
          simp only [Trail.push, if_true] at ih ⊢
          rw [flatten_plain hname, ih]
      | false =>
          simp only [Trail.push, Bool.false_eq_true, if_false] at ih ⊢
          rw [← List.append_assoc, flatten_plain hname, ih]

end

end Leads

/-! ## Resolution without links -/

/-- A trail from the top goes through each place above its own. -/
theorem Leads.isLed_of_append {base names : List Name}
    (hleads : Leads h ⟨true, base ++ names⟩ (base ++ names) node) :
    ∃ found, Leads h ⟨true, base⟩ base found := by
  induction names using List.reverseRecOn generalizing node with
  | nil =>
      rw [List.append_nil] at hleads
      exact ⟨node, hleads⟩
  | append_singleton names name ih =>
      have hup := hleads.up
      rw [hup.trail_eq (Trail.absolute_up _), ← List.append_assoc, List.dropLast_concat] at hup
      exact ih hup

/-- The names of a trail from the top are plain. -/
theorem Leads.isPlain (hleads : Leads h trail place node) (htop : trail.absolute = true) :
    ∀ name ∈ trail.names, Path.IsPlain name := by
  induction hleads with
  | top => simp
  | here => cases htop
  | above => cases htop
  | down _ hplain _ _ _ ih =>
      intro name hname
      rcases List.mem_append.mp hname with hname | hname
      · exact ih htop name hname
      · rw [List.mem_singleton.mp hname]
        exact hplain

/-- Along a trail from the top a resolution meets no link and goes through. -/
theorem Leads.alongNames_eq (hplaced : h.IsPlaced) (follow : Follow) (base : List Name)
    {names : List Name} (hleads : Leads h ⟨true, base ++ names⟩ (base ++ names) node)
    (hsize : Text.Utf8.size (Trail.text ⟨true, base ++ names⟩) ≤ FileTree.maxPathSize)
    (links : Links) :
    alongNames h true follow names ⟨true, base⟩ links =
      .ok (.settled ⟨true, base ++ names⟩ links) := by
  induction names generalizing base with
  | nil =>
      rw [List.append_nil]
      rfl
  | cons name rest ih =>
      have happend : base ++ name :: rest = base ++ [name] ++ rest := by simp
      rw [happend] at hleads hsize ⊢
      obtain ⟨found, hfound⟩ := hleads.isLed_of_append
      have hplain := hfound.isPlain rfl
      have hname : Path.IsPlain name := hplain name (by simp)
      have hentry := hfound.entry_eq hplaced (by simp) (Nat.le_trans (Trail.size_text_le _ _) hsize)
      have hnul : (Trail.text ⟨true, base ++ [name]⟩).contains '\x00' = false := by
        have hjoin := Path.noNul_joinNames fun name hname => (hplain name hname).noNul
        simpa [Trail.text, Char.ext_iff] using hjoin
      simp only [alongNames, Trail.push, hnul, hentry]
      rw [if_neg (by simp [hname.ne_nil, hname.ne_dot]), if_neg (by simp [hname.ne_dotDot]),
        if_neg (by simp)]
      cases found with
      | link target => exact absurd rfl (hfound.ne_link target)
      | file bytes => exact ih (base ++ [name]) hleads hsize
      | directory => exact ih (base ++ [name]) hleads hsize

end Resolve

/-- A place that can be walked to from the top resolves to itself. -/
theorem Host.resolve_of_leads {h : Host} (hplaced : h.IsPlaced) {place : Location} {node : Node}
    (hleads : Resolve.Leads h ⟨true, place⟩ place node)
    (hsize : Text.Utf8.size (Path.absolute place).text ≤ FileTree.maxPathSize) :
    h.resolve true (.absolute place) = .ok (.absolute place) := by
  have halong : Resolve.alongNames h true (Resolve.followLinks h true h.calls)
      (Path.absolute place).names ⟨true, []⟩ [] = .ok (.settled ⟨true, place⟩ []) :=
    Resolve.Leads.alongNames_eq hplaced _ [] hleads hsize []
  have habsolute : (Path.absolute place).isAbsolute = true := rfl
  rw [Host.resolve, habsolute, halong]
  exact congrArg (Except.ok <| Path.absolute ·) (hleads.flatten_eq hplaced)

/-- The path of a place that can be walked to from the top leads to what stands there. -/
theorem Host.target_of_leads {h : Host} (hplaced : h.IsPlaced) {place : Location} {node : Node}
    (hleads : Resolve.Leads h ⟨true, place⟩ place node)
    (hsize : Text.Utf8.size (Path.absolute place).text ≤ FileTree.maxPathSize) :
    h.target (Path.absolute place).text = .ok node := by
  by_cases htop : place = []
  · subst htop
    have hnode : node = .directory := Option.some.inj (hleads.node?_eq hplaced).symm
    subst hnode
    rfl
  · have hlocate := hleads.locate_eq hplaced htop hsize true
    exact Stages.map_eq_ok_iff.mpr ⟨_, hlocate, rfl⟩

end Foldline
