import Foldline.Proofs.Accepted

/-! # How a path fails to be accepted

A path that is not accepted is refused, with what is wrong with it, except in four cases: the home
directory it starts at is not known, it leads into a loop of links, its links are nested deeper than
there is room for calls, or the place it leads to has a path that is too long for the system. Each
of the four has a fault of its own.

## Implementation notes

A strict resolution asks the system about one name after the other, always from a place without
links, so that the system has no links to follow. Only about a link that leads back to itself it is
asked where the link leads, and its answer decides between a refusal and the fault of a loop. -/

namespace Foldline

/-! ## Paths from an unknown home -/

/-- A path starts at a home directory that is not known: none is written down, or what is written
down starts with a tilde itself. The tilde alone stands for the user of the program. -/
def Host.LacksHome (h : Host) (p : Path) : Prop :=
  ∃ user rest, p = ⟨.here, ('~' :: user) :: rest⟩ ∧ '\x00' ∉ user ∧
    ∀ written ∈ (if user = [] then h.home else h.homes.lookup user), written.head? = some '~'

theorem Host.homePath?_eq_none_iff {written : List Char} :
    homePath? written = none ↔ written.head? = some '~' := by
  unfold homePath?
  split
  · rename_i hslashes
    cases written with
    | nil => simp
    | cons c rest =>
        have hc : c = '/' := beq_iff_eq.mp (List.all_eq_true.mp hslashes c List.mem_cons_self)
        simp [hc]
  · split <;> simp_all

theorem Host.homeOf?_eq_none_iff {h : Host} {user : Name} (hnul : '\x00' ∉ user) :
    h.homeOf? ('~' :: user) = none ↔
      ∀ written ∈ (if user = [] then h.home else h.homes.lookup user),
        written.head? = some '~' := by
  have hwritten : h.writtenHome? user = if user = [] then h.home else h.homes.lookup user := by
    simp [writtenHome?, hnul]
  rw [homeOf?, hwritten, Option.bind_eq_none_iff]
  simp only [homePath?_eq_none_iff, Option.mem_def]

theorem Host.expandHome?_eq_none_iff {h : Host} {p : Path} :
    h.expandHome? p = none ↔
      ∃ user rest, p = ⟨.here, ('~' :: user) :: rest⟩ ∧ h.homeOf? ('~' :: user) = none := by
  constructor
  · intro hnone
    obtain ⟨root, names⟩ := p
    unfold expandHome? at hnone
    split at hnone
    · rename_i first rest hroot hnames
      split at hnone
      · rename_i htilde
        obtain ⟨user, rfl⟩ := List.head?_eq_some_iff.mp (beq_iff_eq.mp htilde)
        cases hroot
        cases hnames
        exact ⟨user, rest, rfl, Option.map_eq_none_iff.mp hnone⟩
      · cases hnone
    · cases hnone
  · rintro ⟨user, rest, rfl, hhome⟩
    simp [expandHome?, hhome]

/-- If there is no path with the home directory written out, this is for want of a known one, or
because a user has been asked for by a name with a NUL in it. -/
theorem Host.lacksHome_iff {h : Host} {p : Path} :
    h.LacksHome p ↔ h.expandHome? p = none ∧ Source.PathError.ofHome p = .unknownHome := by
  rw [expandHome?_eq_none_iff]
  constructor
  · rintro ⟨user, rest, rfl, hnul, hwritten⟩
    exact ⟨⟨user, rest, rfl, (homeOf?_eq_none_iff hnul).mpr hwritten⟩,
      by simp [Source.PathError.ofHome, hnul]⟩
  · rintro ⟨⟨user, rest, rfl, hhome⟩, hfault⟩
    have hnul : '\x00' ∉ user := fun hmem => by simp [Source.PathError.ofHome, hmem] at hfault
    exact ⟨user, rest, rfl, hnul, (homeOf?_eq_none_iff hnul).mp hhome⟩

/-! ## Resolutions that fail -/

namespace Resolve

open StateTransition (Reaches)

variable {h : Host} {trail : Trail} {place : Location} {node : Node} {name : Name} {a : Leg}

/-- To ask about a name at the end of a trail is to follow no link. -/
theorem Leads.entry_ne_tooManyLinks (hplaced : h.IsPlaced) (hleads : Leads h trail place node)
    (hname : Path.IsPlain name) : h.entry (trail.push name).text ≠ .error .tooManyLinks := by
  intro hentry
  have hlocate := Stages.map_eq_error_iff.mp hentry
  by_cases hsize : Text.Utf8.size (trail.push name).text ≤ FileTree.maxPathSize
  · rw [hleads.locate_push hplaced hname hsize false] at hlocate
    exact FileTree.find_name_ne_tooManyLinks _ hlocate
  · unfold Host.locate at hlocate
    split_ifs at hlocate <;> simp_all

/-- A link that is met on the way and leads back to itself is nested in itself without end. -/
theorem nests_of_loop {rest : List Name} {target : List Char}
    (hroute : Reaches (hop? h) a (trail, name :: rest)) (hlink : IsLink h trail name target)
    (hback : LeadsBack h trail name) (n : Nat) : Nests h n a :=
  nests_of_reaches hroute (nests_append (nests_of_leadsBack hlink hback n) rest)

theorem Fault.ofSystem_ne_tooDeep (e : SystemError) : ofSystem e ≠ .tooDeep := by
  unfold ofSystem
  split <;> simp

theorem Blocked.ne_tooDeep {fault : Fault} (hblocked : Blocked h trail name fault) :
    fault ≠ .tooDeep := by
  cases hblocked with
  | nul => simp
  | entry _ _ => exact Fault.ofSystem_ne_tooDeep _

theorem loopFault_ne_tooDeep (path : List Char) : loopFault h path ≠ .tooDeep := by
  unfold loopFault
  split
  · exact Fault.ofSystem_ne_tooDeep _
  · simp

/-- The name that blocks a route is not looked for along too many links. -/
theorem Blocked.ne_linkLoop (hplaced : h.IsPlaced) {rest : List Name}
    (hled : IsLegLed h (trail, name :: rest)) {fault : Fault}
    (hblocked : Blocked h trail name fault) (text : List Char) : fault ≠ .linkLoop text := by
  obtain ⟨⟨place, node, hleads⟩, hnames⟩ := hled
  cases hblocked with
  | nul => simp
  | @entry fault hname hentry =>
      have hplain := hname.isPlain (hnames name List.mem_cons_self)
      have hfault : fault ≠ .tooManyLinks := by
        rintro rfl
        exact hleads.entry_ne_tooManyLinks hplaced hplain hentry
      simp [Fault.ofSystem, hfault]

/-- What is said of a loop on the route from a leg: that it is one, or another fault that the system
has with a link on the route that leads back to itself. -/
inductive SaidOfLoop (h : Host) (a : Leg) : Fault → Prop where
  | loop (text : List Char) : SaidOfLoop h a (.linkLoop text)
  | other {trail : Trail} {name : Name} {rest : List Name} {target : List Char}
      {fault : SystemFault} (hroute : Reaches (hop? h) a (trail, name :: rest))
      (hlink : IsLink h trail name target) (hback : LeadsBack h trail name)
      (htarget : h.target (trail.push name).text = .error fault)
      (hfault : fault ≠ .tooManyLinks) : SaidOfLoop h a (.system ⟨fault, (trail.push name).text⟩)

theorem saidOfLoop_loopFault {rest : List Name} {target : List Char}
    (hroute : Reaches (hop? h) a (trail, name :: rest)) (hlink : IsLink h trail name target)
    (hback : LeadsBack h trail name) : SaidOfLoop h a (loopFault h (trail.push name).text) := by
  unfold loopFault
  split
  · rename_i fault htarget
    by_cases hfault : fault = .tooManyLinks
    · subst hfault
      exact .loop _
    · rw [Fault.ofSystem, if_neg hfault]
      exact .other hroute hlink hback htarget hfault
  · exact .loop _

end Resolve

namespace Host

variable {h : Host} {p : Path}

/-- The fault of a loop means that links are nested without end. -/
theorem nests_of_linkLoop (hplaced : h.IsPlaced) (hnames : ∀ name ∈ p.names, '/' ∉ name)
    {text : List Char} (hloop : h.resolve true p = .error (.linkLoop text)) (n : Nat) :
    Resolve.Nests h n (Resolve.pathLeg p) := by
  have hstops := stops_of_resolve hloop
  generalize hfault : Resolve.Fault.linkLoop text = fault at hstops
  cases hstops with
  | blocked hroute hblocked =>
      have hled := (Resolve.isLegLed_pathLeg hnames).reaches hplaced hroute
      exact absurd hfault.symm (hblocked.ne_linkLoop hplaced hled text)
  | loop hroute hlink hback => exact Resolve.nests_of_loop hroute hlink hback n
  | deep => cases hfault

/-- For want of room a resolution fails only where links are nested deeper than there is room. -/
theorem nests_of_tooDeep (hdeep : h.resolve true p = .error .tooDeep) :
    Resolve.Nests h (h.calls + 1) (Resolve.pathLeg p) := by
  have hstops := stops_of_resolve hdeep
  generalize hfault : Resolve.Fault.tooDeep = fault at hstops
  cases hstops with
  | blocked _ hblocked => exact absurd hfault.symm hblocked.ne_tooDeep
  | loop => exact absurd hfault.symm (Resolve.loopFault_ne_tooDeep _)
  | deep hnests => exact hnests

/-- Where links are nested without end, a strict resolution fails with what is said of a loop, or
for want of room before it comes to the loop. -/
theorem resolve_of_nests (hplaced : h.IsPlaced) (hnames : ∀ name ∈ p.names, '/' ∉ name)
    (hnests : ∀ n, Resolve.Nests h n (Resolve.pathLeg p)) :
    ∃ fault, h.resolve true p = .error fault ∧
      (Resolve.SaidOfLoop h (Resolve.pathLeg p) fault ∨ fault = .tooDeep) := by
  cases hresolve : h.resolve true p with
  | ok q =>
      obtain ⟨trail, place, node, hroute, -⟩ := reaches_of_resolve hplaced hnames hresolve
      obtain ⟨n, hn⟩ := Resolve.exists_not_nests hroute rfl
      exact absurd (hnests n) hn
  | error fault =>
      refine ⟨fault, rfl, ?_⟩
      cases stops_of_resolve hresolve with
      | blocked hroute hblocked =>
          obtain ⟨n, hn⟩ := Resolve.exists_not_nests hroute (hblocked.hop?_eq _)
          exact absurd (hnests n) hn
      | loop hroute hlink hback => exact .inl (Resolve.saidOfLoop_loopFault hroute hlink hback)
      | deep => exact .inr rfl

/-- The path of a place that can be walked to is too long, or leads to what stands there. -/
theorem target_eq_nameTooLong_iff (hplaced : h.IsPlaced) {place : Location} {node : Node}
    (hleads : Resolve.Leads h ⟨true, place⟩ place node) :
    h.target (Path.absolute place).text = .error .nameTooLong ↔
      FileTree.maxPathSize < Text.Utf8.size (Path.absolute place).text := by
  constructor
  · intro htarget
    by_contra hsize
    rw [target_of_leads hplaced hleads (Nat.not_lt.mp hsize)] at htarget
    cases htarget
  · intro hsize
    apply Stages.map_eq_error_iff.mpr
    rw [locate, if_neg (by simp [Path.absolute, Path.text]), if_pos hsize]

end Host

namespace Source

/-- An error that refuses a path says what is wrong with it. -/
def PathError.isRefusal : PathError → Bool
  | .nulByte | .missing _ | .unresolved _ _ | .notAFile _ | .otherSuffix _ _ => true
  | _ => false

section

variable {h : Host} {raw : List Char} {setting : Value} {path : Path} {place : Location}
  {node : Node} {extensions : List String}

/-- Of the faults of a resolution only that of a loop and the want of room are no refusals. -/
theorem linkLoop_or_tooDeep {fault : Resolve.Fault}
    (hrefusal : (PathError.ofResolve path fault).isRefusal = false) :
    (∃ text, fault = .linkLoop text) ∨ fault = .tooDeep := by
  cases fault with
  | nulByte => cases hrefusal
  | linkLoop text => exact .inl ⟨text, rfl⟩
  | tooDeep => exact .inr rfl
  | system e =>
      rw [PathError.ofResolve] at hrefusal
      split at hrefusal <;> cases hrefusal

theorem accept_of_expandHome?_eq_none (hhome : h.expandHome? (Path.ofText raw) = none) :
    accept h raw setting = .error (.ofHome (Path.ofText raw)) := by
  rw [accept, hhome]

theorem PathError.ofHome_cases (p : Path) : ofHome p = .nulByte ∨ ofHome p = .unknownHome := by
  unfold ofHome
  split
  · exact .inl rfl
  · exact .inr rfl

section

variable (hpath : h.expandHome? (Path.ofText raw) = some path)

include hpath

theorem accept_of_resolve_error {fault : Resolve.Fault}
    (hresolve : h.resolve true path = .error fault) :
    accept h raw setting = .error (.ofResolve path fault) := by
  rw [accept, hpath]
  dsimp only
  rw [hresolve]
  rfl

/-- A path that leads to a place with a path that is too long. -/
theorem accept_of_tooLong (hplaced : h.IsPlaced)
    (hresolve : h.resolve true path = .ok (.absolute place))
    (hleads : Resolve.Leads h ⟨true, place⟩ place node)
    (hsize : FileTree.maxPathSize < Text.Utf8.size (Path.absolute place).text) :
    accept h raw setting = .error (.unreachable ⟨.nameTooLong, (Path.absolute place).text⟩) := by
  have hregular : isRegularFile h (.absolute place) =
      .error (.unreachable ⟨.nameTooLong, (Path.absolute place).text⟩) := by
    rw [isRegularFile, (Host.target_eq_nameTooLong_iff hplaced hleads).mpr hsize]
  rw [accept, hpath]
  dsimp only
  rw [hresolve]
  simp only [Stages.mapError_ok, bind, Except.bind, hregular]

/-- A path that leads to a place is accepted or refused if the path of the place is short enough. -/
theorem accept_of_fits (hplaced : h.IsPlaced)
    (hsetting : setting.members? = some (extensions.map .text))
    (hresolve : h.resolve true path = .ok (.absolute place))
    (hleads : Resolve.Leads h ⟨true, place⟩ place node)
    (hsize : Text.Utf8.size (Path.absolute place).text ≤ FileTree.maxPathSize) :
    (∃ q, accept h raw setting = .ok q) ∨
      ∃ e, accept h raw setting = .error e ∧ e.isRefusal = true := by
  have htarget := Host.target_of_leads hplaced hleads hsize
  have hsuffixes := acceptedSuffixes_of_members? hsetting
  cases node with
  | link target => exact absurd rfl (hleads.ne_link target)
  | directory =>
      have hregular : isRegularFile h (.absolute place) = .ok false := by
        rw [isRegularFile, htarget]
      refine .inr ⟨.notAFile (.absolute place), ?_, rfl⟩
      simp [accept, hpath, hresolve, bind, Except.bind, hregular]
  | file bytes =>
      have hregular := isRegularFile_eq_true_iff.mpr ⟨bytes, htarget⟩
      by_cases hsuffix : Text.lower (Path.absolute place).suffix ∈
          extensions.map (Text.lower ·.toList)
      · exact .inl ⟨.absolute place, accept_eq_ok_iff.mpr
          ⟨path, bytes, _, hpath, hresolve, htarget, hsuffixes, hsuffix⟩⟩
      · refine .inr ⟨.otherSuffix (.absolute place) (extensions.map (Text.lower ·.toList)), ?_, rfl⟩
        have hcontains := mt List.contains_iff_mem.mp hsuffix
        simp only [accept, hpath, hresolve, Stages.mapError_ok, bind, Except.bind, hregular,
          hsuffixes]
        exact if_neg hcontains

/-- A fault that is no refusal is that of a loop, or the want of room, or that of a place with a
path that is too long. -/
theorem fault_of_not_refusal (hplaced : h.IsPlaced)
    (hsetting : setting.members? = some (extensions.map .text)) {e : PathError}
    (haccept : accept h raw setting = .error e) (hrefusal : e.isRefusal = false) :
    (∃ text, e = .linkLoop text ∧ h.resolve true path = .error (.linkLoop text)) ∨
      (e = .tooDeep ∧ h.resolve true path = .error .tooDeep) ∨
      ∃ place, h.resolve true path = .ok (.absolute place) ∧
        FileTree.maxPathSize < Text.Utf8.size (Path.absolute place).text ∧
        e = .unreachable ⟨.nameTooLong, (Path.absolute place).text⟩ := by
  cases hresolve : h.resolve true path with
  | error fault =>
      rw [accept_of_resolve_error hpath hresolve] at haccept
      cases haccept
      rcases linkLoop_or_tooDeep hrefusal with ⟨text, rfl⟩ | rfl
      · exact .inl ⟨text, rfl, rfl⟩
      · exact .inr (.inl ⟨rfl, rfl⟩)
  | ok q =>
      -- The place that is found can be walked to, so that only the length of its path is left.
      obtain ⟨place, node, rfl, hleads⟩ :=
        Host.leads_of_resolve hplaced (Host.noSlash_of_expandHome? hpath) hresolve
      rcases Nat.lt_or_ge FileTree.maxPathSize (Text.Utf8.size (Path.absolute place).text) with
        hsize | hsize
      · rw [accept_of_tooLong hpath hplaced hresolve hleads hsize] at haccept
        cases haccept
        exact .inr (.inr ⟨place, rfl, hsize, rfl⟩)
      · rcases accept_of_fits hpath hplaced hsetting hresolve hleads hsize with
          ⟨q, hq⟩ | ⟨e', he', hrefusal'⟩
        · cases haccept.symm.trans hq
        · cases haccept.symm.trans he'
          cases hrefusal.symm.trans hrefusal'

section

variable (hplaced : h.IsPlaced) (hsetting : setting.members? = some (extensions.map .text))

include hplaced hsetting

theorem nests_of_accept_linkLoop {text : List Char}
    (haccept : accept h raw setting = .error (.linkLoop text)) (n : Nat) :
    Resolve.Nests h n (Resolve.pathLeg path) := by
  rcases fault_of_not_refusal hpath hplaced hsetting haccept rfl with
    ⟨_, -, hresolve⟩ | ⟨hdeep, -⟩ | ⟨place, -, -, hlong⟩
  · exact Host.nests_of_linkLoop hplaced (Host.noSlash_of_expandHome? hpath) hresolve n
  · cases hdeep
  · cases hlong

theorem nests_of_accept_tooDeep (haccept : accept h raw setting = .error .tooDeep) :
    Resolve.Nests h (h.calls + 1) (Resolve.pathLeg path) := by
  rcases fault_of_not_refusal hpath hplaced hsetting haccept rfl with
    ⟨text, hloop, -⟩ | ⟨-, hresolve⟩ | ⟨place, -, -, hlong⟩
  · cases hloop
  · exact Host.nests_of_tooDeep hresolve
  · cases hlong

theorem accept_eq_unreachable_iff (e : SystemError) :
    accept h raw setting = .error (.unreachable e) ↔
      ∃ place, h.resolve true path = .ok (.absolute place) ∧
        FileTree.maxPathSize < Text.Utf8.size (Path.absolute place).text ∧
        e = ⟨.nameTooLong, (Path.absolute place).text⟩ := by
  constructor
  · intro haccept
    rcases fault_of_not_refusal hpath hplaced hsetting haccept rfl with
      ⟨text, hloop, -⟩ | ⟨hdeep, -⟩ | ⟨place, hresolve, hsize, hlong⟩
    · cases hloop
    · cases hdeep
    · exact ⟨place, hresolve, hsize, PathError.unreachable.inj hlong⟩
  · rintro ⟨place, hresolve, hsize, rfl⟩
    obtain ⟨_, node, hplace, hleads⟩ :=
      Host.leads_of_resolve hplaced (Host.noSlash_of_expandHome? hpath) hresolve
    cases hplace
    exact accept_of_tooLong hpath hplaced hresolve hleads hsize

/-- Where links are not nested too deep and the path of the place is short enough, nothing else can
go wrong. -/
theorem accept_or_refuse (hnests : ¬ Resolve.Nests h (h.calls + 1) (Resolve.pathLeg path))
    (hfits : ∀ place, h.resolve true path = .ok (.absolute place) →
      Text.Utf8.size (Path.absolute place).text ≤ FileTree.maxPathSize) :
    (∃ q, accept h raw setting = .ok q) ∨
      ∃ e, accept h raw setting = .error e ∧ e.isRefusal = true := by
  cases haccept : accept h raw setting with
  | ok q => exact .inl ⟨q, rfl⟩
  | error e =>
      refine .inr ⟨e, rfl, Bool.of_not_eq_false fun hrefusal => ?_⟩
      rcases fault_of_not_refusal hpath hplaced hsetting haccept hrefusal with
        ⟨text, rfl, -⟩ | ⟨rfl, -⟩ | ⟨place, hresolve, hsize, -⟩
      · exact hnests (nests_of_accept_linkLoop hpath hplaced hsetting haccept _)
      · exact hnests (nests_of_accept_tooDeep hpath hplaced hsetting haccept)
      · exact Nat.not_lt.mpr (hfits place hresolve) hsize

end

end

theorem accept_eq_unknownHome_iff (hplaced : h.IsPlaced)
    (hsetting : setting.members? = some (extensions.map .text)) :
    accept h raw setting = .error .unknownHome ↔ h.LacksHome (Path.ofText raw) := by
  rw [Host.lacksHome_iff]
  cases hpath : h.expandHome? (Path.ofText raw) with
  | none => simp [accept_of_expandHome?_eq_none hpath]
  | some path =>
      simp only [reduceCtorEq, false_and, iff_false]
      intro haccept
      rcases fault_of_not_refusal hpath hplaced hsetting haccept rfl with
        ⟨text, hloop, -⟩ | ⟨hdeep, -⟩ | ⟨place, -, -, hlong⟩
      · cases hloop
      · cases hdeep
      · cases hlong

/-- If no home directory can be put in front although none is lacking, a user has been asked for by
a name with a NUL in it, and the path is refused. -/
theorem accept_of_not_lacksHome (hnone : h.expandHome? (Path.ofText raw) = none)
    (hhome : ¬ h.LacksHome (Path.ofText raw)) : accept h raw setting = .error .nulByte := by
  rw [accept_of_expandHome?_eq_none hnone]
  rcases PathError.ofHome_cases (Path.ofText raw) with hfault | hfault
  · rw [hfault]
  · exact absurd (Host.lacksHome_iff.mpr ⟨hnone, hfault⟩) hhome

/-- What becomes of a path. Only four faults are no refusal. The home directory of the path is not
known exactly when none is written down that the path can start at; if a user is asked for by a name
with a NUL in it, the path is refused. A loop is reported only where links are nested without end,
and the want of room only where they are nested deeper than there is room for calls; where they are
nested without end, one of the two is reported, or the path is refused with what the system says
about a link on it. A place cannot be reached exactly when its path is too long. In all other cases
the path is accepted or refused. -/
theorem accept_outcome (hplaced : h.IsPlaced)
    (hsetting : setting.members? = some (extensions.map .text)) (raw : List Char) :
    (accept h raw setting = .error .unknownHome ↔ h.LacksHome (Path.ofText raw)) ∧
      (h.expandHome? (Path.ofText raw) = none → ¬ h.LacksHome (Path.ofText raw) →
        accept h raw setting = .error .nulByte) ∧
      ∀ path, h.expandHome? (Path.ofText raw) = some path →
        (∀ text, accept h raw setting = .error (.linkLoop text) →
          ∀ n, Resolve.Nests h n (Resolve.pathLeg path)) ∧
        (accept h raw setting = .error .tooDeep →
          Resolve.Nests h (h.calls + 1) (Resolve.pathLeg path)) ∧
        ((∀ n, Resolve.Nests h n (Resolve.pathLeg path)) →
          ∃ fault, accept h raw setting = .error (.ofResolve path fault) ∧
            (Resolve.SaidOfLoop h (Resolve.pathLeg path) fault ∨ fault = .tooDeep)) ∧
        (∀ e, accept h raw setting = .error (.unreachable e) ↔
          ∃ place, h.resolve true path = .ok (.absolute place) ∧
            FileTree.maxPathSize < Text.Utf8.size (Path.absolute place).text ∧
            e = ⟨.nameTooLong, (Path.absolute place).text⟩) ∧
        (¬ Resolve.Nests h (h.calls + 1) (Resolve.pathLeg path) →
          (∀ place, h.resolve true path = .ok (.absolute place) →
            Text.Utf8.size (Path.absolute place).text ≤ FileTree.maxPathSize) →
          (∃ q, accept h raw setting = .ok q) ∨
            ∃ e, accept h raw setting = .error e ∧ e.isRefusal = true) := by
  refine ⟨accept_eq_unknownHome_iff hplaced hsetting, accept_of_not_lacksHome,
    fun path hpath => ⟨?_, ?_, ?_, ?_, ?_⟩⟩
  · exact fun text => nests_of_accept_linkLoop hpath hplaced hsetting
  · exact nests_of_accept_tooDeep hpath hplaced hsetting
  · intro hnests
    obtain ⟨fault, hresolve, hfault⟩ :=
      Host.resolve_of_nests hplaced (Host.noSlash_of_expandHome? hpath) hnests
    exact ⟨fault, accept_of_resolve_error hpath hresolve, hfault⟩
  · exact accept_eq_unreachable_iff hpath hplaced hsetting
  · exact accept_or_refuse hpath hplaced hsetting

/-- A host whose only file is a link to itself, with a home directory that starts with a tilde. -/
def selfLink : Host where
  tree := ⟨[(["loop.ts".toList], .link "loop.ts".toList)]⟩
  current := []
  home := some "~x".toList

theorem accept_outcome_selfLink :
    selfLink.IsPlaced ∧
      (Value.texts [".ts"]).members? = some ([".ts"].map .text) ∧
      accept selfLink "~nobody/a.ts".toList (.texts [".ts"]) = .error .unknownHome ∧
      accept selfLink "~/a.ts".toList (.texts [".ts"]) = .error .unknownHome ∧
      (∀ n, Resolve.Nests selfLink n (Resolve.pathLeg ⟨.here, ["loop.ts".toList]⟩)) ∧
      ∃ fault, accept selfLink "./loop.ts".toList (.texts [".ts"]) =
        .error (.ofResolve ⟨.here, ["loop.ts".toList]⟩ fault) ∧
          (Resolve.SaidOfLoop selfLink (Resolve.pathLeg ⟨.here, ["loop.ts".toList]⟩) fault ∨
            fault = .tooDeep) := by
  have hplaced : selfLink.IsPlaced := Host.isPlaced_top rfl
  have hsetting : (Value.texts [".ts"]).members? = some ([".ts"].map .text) := rfl
  have hnobody : selfLink.LacksHome (Path.ofText "~nobody/a.ts".toList) :=
    ⟨"nobody".toList, ["a.ts".toList], by decide +kernel, by decide, nofun⟩
  have hown : selfLink.LacksHome (Path.ofText "~/a.ts".toList) :=
    ⟨[], ["a.ts".toList], by decide +kernel, by decide, fun written hwritten => by
      cases hwritten
      rfl⟩
  have hlink : Resolve.IsLink selfLink ⟨false, []⟩ "loop.ts".toList "loop.ts".toList :=
    ⟨⟨by decide, by decide, by decide⟩, by decide +kernel⟩
  have hback : Resolve.LeadsBack selfLink ⟨false, []⟩ "loop.ts".toList :=
    ⟨[], .single (hlink.hop?_eq [])⟩
  have hnests := Resolve.nests_of_leadsBack hlink hback
  have hpath : selfLink.expandHome? (Path.ofText "./loop.ts".toList) =
      some ⟨.here, ["loop.ts".toList]⟩ := by
    decide +kernel
  obtain ⟨hnobody', -⟩ := accept_outcome hplaced hsetting "~nobody/a.ts".toList
  obtain ⟨hown', -⟩ := accept_outcome hplaced hsetting "~/a.ts".toList
  obtain ⟨-, -, hloop⟩ := accept_outcome hplaced hsetting "./loop.ts".toList
  exact ⟨hplaced, hsetting, hnobody'.mpr hnobody, hown'.mpr hown, hnests,
    (hloop _ hpath).2.2.1 hnests⟩

/-- A link that leads back to itself is no refusal. -/
theorem accept_selfLink :
    accept selfLink "loop.ts".toList (.texts [".ts"]) = .error (.linkLoop "loop.ts".toList) ∧
      (PathError.linkLoop "loop.ts".toList).isRefusal = false := by
  decide +kernel

end

end Source

end Foldline
