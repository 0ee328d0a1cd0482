import Foldline.Proofs.Resolution
import Mathlib.Computability.StateTransition

/-! # The route of a resolution

A strict resolution follows links inside of links and remembers the ones it has met. Its route is
what it would do without a memory: it goes from name to name, and at a link the names of the target
come in front of those still to go. The resolution ends where its route ends. If it fails, then its
route cannot go on, or comes back to a link that is being followed, or links are nested too deep.

## Implementation notes

A link that is being followed has been left behind on the route, and the route so far leads from it
to where the resolution is. This is what the memory of a resolution says (`Recalls`), and it is why
a link that is met while it is being followed leads back to itself. -/

namespace Foldline

namespace Resolve

open StateTransition (Reaches Reaches₁)

/-- A trail and the names still to go. -/
abbrev Leg := Trail × List Name

/-- Where a link leads off from. -/
def linkStart (trail : Trail) (target : List Char) : Trail :=
  if target.head? == some '/' then ⟨true, []⟩ else trail

/-- A leg along the target of a link. -/
def linkLeg (trail : Trail) (target : List Char) : Leg :=
  (linkStart trail target, Text.cutAt '/' target)

/-- One step of a route. There is none at the end, and none where a strict resolution fails. -/
def hop? (h : Host) : Leg → Option Leg
  | (_, []) => none
  | (trail, name :: rest) =>
      if name.isEmpty || name == Path.dot then some (trail, rest)
      else if name == Path.dotDot then some (trail.up, rest)
      else if (trail.push name).text.contains '\x00' then none
      else
        match h.entry (trail.push name).text with
        | .error _ => none
        | .ok (.link target) => some (linkStart trail target, Text.cutAt '/' target ++ rest)
        | .ok _ => some (trail.push name, rest)

/-- A name that can lead down: it is neither skipped nor goes up, and a text can hold it. -/
structure IsDown (trail : Trail) (name : Name) : Prop where
  notSkipped : ¬ (name.isEmpty || name == Path.dot) = true
  notUp : ¬ (name == Path.dotDot) = true
  noNul : ¬ (trail.push name).text.contains '\x00' = true

/-- A name that can lead down is plain, if a text can hold it between slashes. -/
theorem IsDown.isPlain {trail : Trail} {name : Name} (hname : IsDown trail name)
    (hslash : '/' ∉ name) : Path.IsPlain name := by
  have hskip := hname.notSkipped
  simp only [Bool.or_eq_true, List.isEmpty_iff, beq_iff_eq, not_or] at hskip
  refine ⟨hskip.1, hskip.2, fun heq => hname.notUp (beq_iff_eq.mpr heq), hslash, fun hmem => ?_⟩
  have hjoin : '\x00' ∈ Path.joinNames (trail.push name).names :=
    Path.mem_joinNames (by simp [Trail.push]) hmem
  apply hname.noNul
  rw [List.contains_iff_mem, Trail.text]
  split
  · exact List.mem_cons_of_mem _ hjoin
  · exact hjoin

/-- At the end of a trail a name is that of a link. -/
structure IsLink (h : Host) (trail : Trail) (name : Name) (target : List Char) : Prop
    extends IsDown trail name where
  entry : h.entry (trail.push name).text = .ok (.link target)

section

variable {h : Host} {trail found : Trail} {name : Name} {names rest more : List Name} {a b c : Leg}
  {n : Nat}

theorem hop?_skip (hskip : (name.isEmpty || name == Path.dot) = true) :
    hop? h (trail, name :: rest) = some (trail, rest) := by
  rw [hop?, if_pos hskip]

theorem hop?_up (hskip : ¬ (name.isEmpty || name == Path.dot) = true)
    (hup : (name == Path.dotDot) = true) :
    hop? h (trail, name :: rest) = some (trail.up, rest) := by
  rw [hop?, if_neg hskip, if_pos hup]

theorem IsDown.hop?_eq (hname : IsDown trail name) {node : Node}
    (hentry : h.entry (trail.push name).text = .ok node) (hlink : ∀ target, node ≠ .link target) :
    hop? h (trail, name :: rest) = some (trail.push name, rest) := by
  rw [hop?, if_neg hname.notSkipped, if_neg hname.notUp, if_neg hname.noNul, hentry]
  cases node with
  | link target => exact absurd rfl (hlink target)
  | file bytes => rfl
  | directory => rfl

theorem IsLink.hop?_eq {target : List Char} (hlink : IsLink h trail name target)
    (rest : List Name) :
    hop? h (trail, name :: rest) =
      some (linkStart trail target, Text.cutAt '/' target ++ rest) := by
  rw [hop?, if_neg hlink.notSkipped, if_neg hlink.notUp, if_neg hlink.noNul, hlink.entry]

/-- What one step of a route does. -/
inductive Hops (h : Host) : Leg → Leg → Prop where
  | skip {trail : Trail} {name : Name} {rest : List Name}
      (hskip : (name.isEmpty || name == Path.dot) = true) :
      Hops h (trail, name :: rest) (trail, rest)
  | up {trail : Trail} {name : Name} {rest : List Name}
      (hskip : ¬ (name.isEmpty || name == Path.dot) = true) (hup : (name == Path.dotDot) = true) :
      Hops h (trail, name :: rest) (trail.up, rest)
  | down {trail : Trail} {name : Name} {rest : List Name} {node : Node} (hname : IsDown trail name)
      (hentry : h.entry (trail.push name).text = .ok node) (hlink : ∀ target, node ≠ .link target) :
      Hops h (trail, name :: rest) (trail.push name, rest)
  | link {trail : Trail} {name : Name} {rest : List Name} {target : List Char}
      (hlink : IsLink h trail name target) :
      Hops h (trail, name :: rest) (linkStart trail target, Text.cutAt '/' target ++ rest)

theorem Hops.of_hop? (hhop : hop? h a = some b) : Hops h a b := by
  obtain ⟨trail, names⟩ := a
  cases names with
  | nil => cases hhop
  | cons name rest =>
      simp only [hop?] at hhop
      split_ifs at hhop with hskip hup hnul
      · cases hhop
        exact .skip hskip
      · cases hhop
        exact .up hskip hup
      · have hname : IsDown trail name := ⟨hskip, hup, hnul⟩
        split at hhop
        · cases hhop
        · rename_i target hentry
          cases hhop
          exact .link ⟨hname, hentry⟩
        · rename_i node hlink hentry
          cases hhop
          exact .down hname hentry hlink

/-- A step does not look at the names behind the first. -/
theorem hop?_append (hhop : hop? h a = some b) (more : List Name) :
    hop? h (a.1, a.2 ++ more) = some (b.1, b.2 ++ more) := by
  cases Hops.of_hop? hhop with
  | skip hskip => exact hop?_skip hskip
  | up hskip hup => exact hop?_up hskip hup
  | down hname hentry hlink => exact hname.hop?_eq hentry hlink
  | link hlink =>
      rw [List.append_assoc]
      exact hlink.hop?_eq _

theorem reaches_append (hroute : Reaches (hop? h) a b) (more : List Name) :
    Reaches (hop? h) (a.1, a.2 ++ more) (b.1, b.2 ++ more) := by
  induction hroute with
  | refl => exact .refl
  | tail _ hhop ih => exact ih.tail (hop?_append hhop more)

/-! ## Links inside of links -/

/-- The route from a leg meets a link, along the target of this link it meets another one, and so
on, `n` links deep. -/
def Nests (h : Host) : Nat → Leg → Prop
  | 0, _ => True
  | n + 1, a => ∃ trail name rest target, Reaches (hop? h) a (trail, name :: rest) ∧
      IsLink h trail name target ∧ Nests h n (linkLeg trail target)

theorem nests_of_reaches (hroute : Reaches (hop? h) a b) (hb : Nests h n b) : Nests h n a := by
  cases n with
  | zero => trivial
  | succ n =>
      obtain ⟨trail, name, rest, target, hb, hlink, hinside⟩ := hb
      exact ⟨trail, name, rest, target, hroute.trans hb, hlink, hinside⟩

theorem nests_append (ha : Nests h n a) (more : List Name) : Nests h n (a.1, a.2 ++ more) := by
  cases n with
  | zero => trivial
  | succ n =>
      obtain ⟨trail, name, rest, target, ha, hlink, hinside⟩ := ha
      exact ⟨trail, name, rest ++ more, target, reaches_append ha more, hlink, hinside⟩

theorem nests_of_succ (ha : Nests h (n + 1) a) : Nests h n a := by
  induction n generalizing a with
  | zero => trivial
  | succ n ih =>
      obtain ⟨trail, name, rest, target, ha, hlink, hinside⟩ := ha
      exact ⟨trail, name, rest, target, ha, hlink, ih hinside⟩

/-- A link to which its own route comes back. -/
def LeadsBack (h : Host) (trail : Trail) (name : Name) : Prop :=
  ∃ rest, Reaches₁ (hop? h) (trail, [name]) (trail, name :: rest)

/-- A link that leads back to itself is nested in itself without end. -/
theorem nests_of_leadsBack {target : List Char} (hlink : IsLink h trail name target)
    (hback : LeadsBack h trail name) (n : Nat) : Nests h n (trail, [name]) := by
  induction n with
  | zero => trivial
  | succ n ih =>
      obtain ⟨rest, hback⟩ := hback
      have hfirst := hlink.hop?_eq (h := h) []
      rw [List.append_nil] at hfirst
      have hinside : Reaches (hop? h) (linkLeg trail target) (trail, name :: rest) :=
        StateTransition.reaches₁_fwd hback hfirst
      exact ⟨trail, name, [], target, .refl, hlink, nests_of_reaches hinside (nests_append ih rest)⟩

/-- A route that ends, wherever that is, meets no links nested without end. -/
theorem exists_not_nests (hroute : Reaches (hop? h) a b) (hend : hop? h b = none) :
    ∃ n, ¬ Nests h n a := by
  induction hroute using Relation.ReflTransGen.head_induction_on with
  | refl =>
      refine ⟨1, ?_⟩
      rintro ⟨trail, name, rest, target, hlater, hlink, -⟩
      rcases Relation.ReflTransGen.cases_head hlater with rfl | ⟨c, hc, -⟩
      · rw [hlink.hop?_eq] at hend
        cases hend
      · cases hend.symm.trans hc
  | @head a c hhop _ ih =>
      obtain ⟨n, hn⟩ := ih
      refine ⟨n + 1, ?_⟩
      rintro ⟨trail, name, rest, target, hlater, hlink, hinside⟩
      -- The link is met at this leg, and then the next leg leads along its target, or later.
      rcases Relation.ReflTransGen.cases_head hlater with rfl | ⟨c', hc', hlater⟩
      · have hnext := hlink.hop?_eq (h := h) rest
        cases Option.mem_unique hhop hnext
        exact hn (nests_append hinside rest)
      · cases Option.mem_unique hhop hc'
        exact hn (nests_of_succ ⟨trail, name, rest, target, hlater, hlink, hinside⟩)

/-! ## Why a strict resolution fails -/

/-- The next name cannot be looked up. -/
inductive Blocked (h : Host) (trail : Trail) (name : Name) : Fault → Prop where
  | nul (hskip : ¬ (name.isEmpty || name == Path.dot) = true)
      (hup : ¬ (name == Path.dotDot) = true)
      (hnul : (trail.push name).text.contains '\x00' = true) : Blocked h trail name .nulByte
  | entry {fault : SystemFault} (hname : IsDown trail name)
      (hentry : h.entry (trail.push name).text = .error fault) :
      Blocked h trail name (.ofSystem ⟨fault, (trail.push name).text⟩)

theorem Blocked.hop?_eq {fault : Fault} (hblocked : Blocked h trail name fault)
    (rest : List Name) : hop? h (trail, name :: rest) = none := by
  cases hblocked with
  | nul hskip hup hnul => rw [hop?, if_neg hskip, if_neg hup, if_pos hnul]
  | entry hname hentry =>
      rw [hop?, if_neg hname.notSkipped, if_neg hname.notUp, if_neg hname.noNul, hentry]

/-- A route that gets to its end is not blocked on the way. -/
theorem Blocked.not_reaches {fault : Fault} (hblocked : Blocked h trail name fault)
    (hroute : Reaches (hop? h) a (trail, name :: rest)) : ¬ Reaches (hop? h) a (found, []) := by
  intro hend
  rcases StateTransition.reaches_total hroute hend with hlater | hlater
  · rcases Relation.ReflTransGen.cases_head hlater with heq | ⟨c, hc, -⟩
    · cases heq
    · cases (hblocked.hop?_eq rest).symm.trans hc
  · rcases Relation.ReflTransGen.cases_head hlater with heq | ⟨c, hc, -⟩
    · cases heq
    · cases hc

/-- Why a resolution from a leg on fails, with links followed `n` deep: its route is blocked, or
comes to a link that leads back to itself, or the links are nested deeper. -/
inductive Stops (h : Host) (n : Nat) (a : Leg) : Fault → Prop where
  | blocked {trail : Trail} {name : Name} {rest : List Name} {fault : Fault}
      (hroute : Reaches (hop? h) a (trail, name :: rest)) (hblocked : Blocked h trail name fault) :
      Stops h n a fault
  | loop {trail : Trail} {name : Name} {rest : List Name} {target : List Char}
      (hroute : Reaches (hop? h) a (trail, name :: rest)) (hlink : IsLink h trail name target)
      (hback : LeadsBack h trail name) : Stops h n a (loopFault h (trail.push name).text)
  | deep (hdeep : Nests h n a) : Stops h n a .tooDeep

theorem Stops.of_reaches {fault : Fault} (hroute : Reaches (hop? h) a b)
    (hb : Stops h n b fault) : Stops h n a fault := by
  cases hb with
  | blocked hb hblocked => exact .blocked (hroute.trans hb) hblocked
  | loop hb hlink hback => exact .loop (hroute.trans hb) hlink hback
  | deep hdeep => exact .deep (nests_of_reaches hroute hdeep)

/-- What stops a resolution inside of a link stops the one that follows the link. -/
theorem Stops.of_link {target : List Char} {fault : Fault} (hlink : IsLink h trail name target)
    (hinside : Stops h n (linkLeg trail target) fault) (rest : List Name) :
    Stops h (n + 1) (trail, name :: rest) fault := by
  have hnext : Reaches (hop? h) (trail, name :: rest)
      ((linkLeg trail target).1, (linkLeg trail target).2 ++ rest) := .single (hlink.hop?_eq rest)
  cases hinside with
  | blocked hb hblocked => exact .blocked (hnext.trans (reaches_append hb rest)) hblocked
  | loop hb hlink' hback => exact .loop (hnext.trans (reaches_append hb rest)) hlink' hback
  | deep hdeep => exact .deep ⟨trail, name, rest, target, .refl, hlink, hdeep⟩

theorem Trail.push_inj {base : Trail} {other : Name} (hpush : base.push other = trail.push name) :
    base = trail ∧ other = name := by
  obtain ⟨absolute, names⟩ := base
  obtain ⟨absolute', names'⟩ := trail
  simp only [Trail.push, Trail.mk.injEq] at hpush
  obtain ⟨rfl, hnames⟩ := hpush
  obtain ⟨rfl, hlast⟩ := List.append_inj' hnames rfl
  exact ⟨rfl, (List.cons.inj hlast).1⟩

/-- What the memory of a resolution says at a leg. From a link that is being followed the route has
come to this leg; a link that has been followed leads to its result. -/
structure Recalls (h : Host) (links : Links) (a : Leg) : Prop where
  pending : ∀ base name, links.lookup (Trail.push base name) = some none →
    ∃ more, Reaches₁ (hop? h) (base, [name]) (a.1, a.2 ++ more)
  done : ∀ base name found, links.lookup (Trail.push base name) = some (some found) →
    Reaches (hop? h) (base, [name]) (found, [])

variable {links : Links}

theorem Recalls.of_reaches (hroute : Reaches (hop? h) a b) (ha : Recalls h links a) :
    Recalls h links b where
  pending := by
    intro base name hlookup
    obtain ⟨more, hmore⟩ := ha.pending base name hlookup
    exact ⟨more, hmore.trans_left (reaches_append hroute more)⟩
  done := ha.done

/-- A link that begins to be followed is recalled on the way along its target. -/
theorem Recalls.enter {target : List Char} (ha : Recalls h links (trail, name :: rest))
    (hlink : IsLink h trail name target) :
    Recalls h ((trail.push name, none) :: links) (linkLeg trail target) where
  pending := by
    intro base other hlookup
    by_cases hsame : base.push other = trail.push name
    · obtain ⟨rfl, rfl⟩ := Trail.push_inj hsame
      exact ⟨[], .single (hlink.hop?_eq [] |>.trans (by simp [linkLeg]))⟩
    · rw [List.lookup_cons, beq_eq_false_iff_ne.mpr hsame] at hlookup
      obtain ⟨more, hmore⟩ := ha.pending base other hlookup
      refine ⟨rest ++ more, hmore.tail ?_⟩
      have hnext := hlink.hop?_eq (h := h) (rest ++ more)
      exact hnext
  done := by
    intro base other found hlookup
    by_cases hsame : base.push other = trail.push name
    · rw [hsame, List.lookup_cons_self] at hlookup
      cases hlookup
    · rw [List.lookup_cons, beq_eq_false_iff_ne.mpr hsame] at hlookup
      exact ha.done base other found hlookup

/-- What becomes of a resolution from a leg on, with links followed `n` deep: it follows its route
to the end, and leaves no more links open than before, or it fails for a reason. -/
def Accounts (h : Host) (n : Nat) (links : Links) (a : Leg) : Except Fault Result → Prop
  | .ok (.settled found links') => Reaches (hop? h) a (found, []) ∧
      (∀ base name result, links'.lookup (Trail.push base name) = some (some result) →
        Reaches (hop? h) (base, [name]) (result, [])) ∧
      ∀ next, links'.lookup next = some none → links.lookup next = some none
  | .ok (.stuck _) => False
  | .error fault => Stops h n a fault

theorem Accounts.of_reaches {r : Except Fault Result} (hroute : Reaches (hop? h) a b)
    (hb : Accounts h n links b r) : Accounts h n links a r := by
  cases r with
  | error fault => exact Stops.of_reaches hroute hb
  | ok result =>
      cases result with
      | stuck text => exact hb
      | settled found links' => exact ⟨hroute.trans hb.1, hb.2⟩

/-- A memory with fewer open links will do. -/
theorem Accounts.of_open {r : Except Fault Result} {fewer : Links}
    (hopen : ∀ next, fewer.lookup next = some none → links.lookup next = some none)
    (ha : Accounts h n fewer a r) : Accounts h n links a r := by
  cases r with
  | error fault => exact ha
  | ok result =>
      cases result with
      | stuck text => exact ha
      | settled found links' =>
          obtain ⟨hroute, hdone, hfewer⟩ := ha
          exact ⟨hroute, hdone, fun next hnext => hopen next (hfewer next hnext)⟩

/-- When a link has been followed, its result is recalled in the place of the open link. -/
theorem Recalls.leave {target : List Char} {links' : Links}
    (ha : Recalls h links (trail, name :: rest)) (hlink : IsLink h trail name target)
    (hinside : Accounts h n ((trail.push name, none) :: links) (linkLeg trail target)
      (.ok (.settled found links'))) :
    Reaches (hop? h) (trail, name :: rest) (found, rest) ∧
      Recalls h ((trail.push name, some found) :: links') (found, rest) ∧
      ∀ next, List.lookup next ((trail.push name, some found) :: links') = some none →
        links.lookup next = some none := by
  obtain ⟨hroute, hdone, hopen⟩ := hinside
  have hwhole (more : List Name) : Reaches (hop? h) (trail, name :: more) (found, more) :=
    .head (hlink.hop?_eq more) (reaches_append hroute more)
  have hbefore : ∀ next, List.lookup next ((trail.push name, some found) :: links') = some none →
      links.lookup next = some none := by
    intro next hnext
    by_cases hsame : next = trail.push name
    · rw [hsame, List.lookup_cons_self] at hnext
      cases hnext
    · rw [List.lookup_cons, beq_eq_false_iff_ne.mpr hsame] at hnext
      have hpending := hopen next hnext
      rwa [List.lookup_cons, beq_eq_false_iff_ne.mpr hsame] at hpending
  refine ⟨hwhole rest, ⟨?_, ?_⟩, hbefore⟩
  · intro base other hlookup
    obtain ⟨more, hmore⟩ := ha.pending base other (hbefore _ hlookup)
    exact ⟨more, hmore.trans_left (hwhole (rest ++ more))⟩
  · intro base other result hlookup
    by_cases hsame : base.push other = trail.push name
    · rw [hsame, List.lookup_cons_self] at hlookup
      cases hlookup
      obtain ⟨rfl, rfl⟩ := Trail.push_inj hsame
      exact hwhole []
    · rw [List.lookup_cons, beq_eq_false_iff_ne.mpr hsame] at hlookup
      exact hdone base other result hlookup

/-- Along names, a strict resolution follows its route, if it does so along the targets of links. -/
theorem alongNames_accounts {follow : Follow}
    (hfollow : ∀ trail target links, Recalls h links (linkLeg trail target) →
      Accounts h n links (linkLeg trail target) (follow trail target links))
    (hlinks : Recalls h links (trail, names)) :
    Accounts h (n + 1) links (trail, names) (alongNames h true follow names trail links) := by
  induction names generalizing trail links with
  | nil => exact ⟨.refl, hlinks.done, fun _ hnext => hnext⟩
  | cons name rest ih =>
      -- Where the resolution goes on, the route goes along; the rest is up to the names left.
      have hon {next : Trail} (hroute : Reaches (hop? h) (trail, name :: rest) (next, rest)) :
          Accounts h (n + 1) links (trail, name :: rest)
            (alongNames h true follow rest next links) :=
        .of_reaches hroute (ih (hlinks.of_reaches hroute))
      simp only [alongNames, if_true]
      split_ifs with hskip hup hnul
      · exact hon (.single (hop?_skip hskip))
      · exact hon (.single (hop?_up hskip hup))
      · exact .blocked .refl (.nul hskip hup hnul)
      · have hname : IsDown trail name := ⟨hskip, hup, hnul⟩
        cases hentry : h.entry (trail.push name).text with
        | error fault => exact .blocked .refl (.entry hname hentry)
        | ok node =>
            cases node with
            | file bytes => exact hon (.single (hname.hop?_eq hentry (by simp)))
            | directory => exact hon (.single (hname.hop?_eq hentry (by simp)))
            | link target =>
                have hlink : IsLink h trail name target := ⟨hname, hentry⟩
                dsimp only
                split
                · rename_i found hlookup
                  exact hon (reaches_append (hlinks.done trail name found hlookup) rest)
                · rename_i hlookup
                  obtain ⟨more, hback⟩ := hlinks.pending trail name hlookup
                  exact .loop .refl hlink ⟨_, hback⟩
                · have hinside := hfollow trail target _ (hlinks.enter hlink)
                  split
                  · rename_i fault hfault
                    rw [hfault] at hinside
                    exact Stops.of_link hlink hinside rest
                  · rename_i found links' hfound
                    rw [hfound] at hinside
                    obtain ⟨hroute, hrecalls, hopen⟩ := hlinks.leave hlink hinside
                    exact .of_open hopen (.of_reaches hroute (ih hrecalls))
                  · rename_i text hstuck
                    rw [hstuck] at hinside
                    cases hinside

theorem followLinks_accounts (calls : Nat) (trail : Trail) (target : List Char) (links : Links)
    (hlinks : Recalls h links (linkLeg trail target)) :
    Accounts h calls links (linkLeg trail target)
      (followLinks h true calls trail target links) := by
  induction calls generalizing trail target links with
  | zero => exact .deep trivial
  | succ calls ih => exact alongNames_accounts ih hlinks

/-! ## Resolutions on another host -/

/-- Two hosts agree along the route from a leg: whatever name the route comes to, they have the same
at the end of the trail. -/
def Agrees (h other : Host) (a : Leg) : Prop :=
  ∀ trail name rest, Reaches (hop? h) a (trail, name :: rest) → IsDown trail name →
    other.entry (trail.push name).text = h.entry (trail.push name).text

variable {other : Host}

theorem Agrees.of_reaches (hagree : Agrees h other a) (hroute : Reaches (hop? h) a b) :
    Agrees h other b :=
  fun trail name rest hlater => hagree trail name rest (hroute.trans hlater)

/-- Hosts that agree along the route through a link agree along its target. -/
theorem Agrees.enter {target : List Char} (hagree : Agrees h other (trail, name :: rest))
    (hlink : IsLink h trail name target) : Agrees h other (linkLeg trail target) := by
  intro later next more hinside
  refine hagree later next (more ++ rest) ?_
  exact .head (hlink.hop?_eq rest) (reaches_append hinside rest)

/-- Where a strict resolution succeeds, a lenient one on a host that agrees along the route goes
along with it, if it does so along the targets of links. -/
theorem alongNames_agree {strictly leniently : Follow}
    (haccounts : ∀ trail target links, Recalls h links (linkLeg trail target) →
      Accounts h n links (linkLeg trail target) (strictly trail target links))
    (hfollow : ∀ trail target links r, Recalls h links (linkLeg trail target) →
      Agrees h other (linkLeg trail target) → strictly trail target links = .ok r →
        leniently trail target links = .ok r)
    (hlinks : Recalls h links (trail, names)) (hagree : Agrees h other (trail, names)) {r : Result}
    (hstrict : alongNames h true strictly names trail links = .ok r) :
    alongNames other false leniently names trail links = .ok r := by
  induction names generalizing trail links with
  | nil => exact hstrict
  | cons name rest ih =>
      have hon {next : Trail} (hroute : Reaches (hop? h) (trail, name :: rest) (next, rest)) :=
        @ih next links (hlinks.of_reaches hroute) (hagree.of_reaches hroute)
      simp only [alongNames, if_true, Bool.false_eq_true, if_false] at hstrict ⊢
      split_ifs at hstrict ⊢ with hskip hup hnul
      · exact hon (.single (hop?_skip hskip)) hstrict
      · exact hon (.single (hop?_up hskip hup)) hstrict
      · have hname : IsDown trail name := ⟨hskip, hup, hnul⟩
        rw [hagree trail name rest .refl hname]
        cases hentry : h.entry (trail.push name).text with
        | error fault =>
            rw [hentry] at hstrict
            cases hstrict
        | ok node =>
            rw [hentry] at hstrict
            cases node with
            | file bytes => exact hon (.single (hname.hop?_eq hentry (by simp))) hstrict
            | directory => exact hon (.single (hname.hop?_eq hentry (by simp))) hstrict
            | link target =>
                have hlink : IsLink h trail name target := ⟨hname, hentry⟩
                have hinside := haccounts trail target _ (hlinks.enter hlink)
                dsimp only at hstrict ⊢
                split at hstrict
                · rename_i found hlookup
                  exact hon (reaches_append (hlinks.done trail name found hlookup) rest) hstrict
                · cases hstrict
                · split at hstrict
                  · cases hstrict
                  · rename_i found links' hfound
                    rw [hfollow _ _ _ _ (hlinks.enter hlink) (hagree.enter hlink) hfound]
                    rw [hfound] at hinside
                    obtain ⟨hroute, hrecalls, -⟩ := hlinks.leave hlink hinside
                    exact ih hrecalls (hagree.of_reaches hroute) hstrict
                  · rename_i text hstuck
                    rw [hstuck] at hinside
                    cases hinside

theorem followLinks_agree (calls : Nat) (trail : Trail) (target : List Char) (links : Links)
    (r : Result) (hlinks : Recalls h links (linkLeg trail target))
    (hagree : Agrees h other (linkLeg trail target))
    (hstrict : followLinks h true calls trail target links = .ok r) :
    followLinks other false calls trail target links = .ok r := by
  induction calls generalizing trail target links r with
  | zero => cases hstrict
  | succ calls ih =>
      exact alongNames_agree (followLinks_accounts calls) ih hlinks hagree hstrict

theorem recalls_nil (a : Leg) : Recalls h [] a := by
  refine ⟨?_, ?_⟩
  · intro base name hlookup
    cases hlookup
  · intro base name found hlookup
    cases hlookup

end

/-- The leg that a path stands for. -/
def pathLeg (p : Path) : Leg := (⟨p.isAbsolute, []⟩, p.names)

/-! ## The places on a route -/

/-- A trail leads somewhere. -/
def IsLed (h : Host) (trail : Trail) : Prop := ∃ place node, Leads h trail place node

/-- A leg whose trail leads somewhere, with names that a text can hold between slashes. -/
def IsLegLed (h : Host) (a : Leg) : Prop := IsLed h a.1 ∧ ∀ name ∈ a.2, '/' ∉ name

section

variable {h : Host} {a b : Leg}

/-- Where a link leads off from is a place as well. -/
theorem Leads.linkStart {trail : Trail} {place : Location} {node : Node}
    (hleads : Leads h trail place node) (target : List Char) :
    ∃ found, Leads h (linkStart trail target) (if target.head? == some '/' then [] else place)
      found := by
  unfold Resolve.linkStart
  split
  · exact ⟨_, .top⟩
  · exact ⟨node, hleads⟩

theorem leads_pathLeg (h : Host) (p : Path) :
    ∃ node, Leads h (pathLeg p).1 (if p.isAbsolute then [] else h.current) node := by
  unfold pathLeg
  cases p.isAbsolute with
  | true => exact ⟨_, .top⟩
  | false => exact ⟨_, .here⟩

theorem isLegLed_pathLeg {p : Path} (hnames : ∀ name ∈ p.names, '/' ∉ name) :
    IsLegLed h (pathLeg p) := by
  obtain ⟨node, hleads⟩ := leads_pathLeg h p
  exact ⟨⟨_, node, hleads⟩, hnames⟩

/-- A step of a route leads from a place to a place. -/
theorem IsLegLed.hop (hplaced : h.IsPlaced) (ha : IsLegLed h a) (hhop : hop? h a = some b) :
    IsLegLed h b := by
  obtain ⟨⟨place, node, hleads⟩, hnames⟩ := ha
  cases Hops.of_hop? hhop with
  | skip => exact ⟨⟨place, node, hleads⟩, (List.forall_mem_cons.mp hnames).2⟩
  | up => exact ⟨⟨_, _, hleads.up⟩, (List.forall_mem_cons.mp hnames).2⟩
  | down hname hentry hlink =>
      obtain ⟨hslash, hrest⟩ := List.forall_mem_cons.mp hnames
      exact ⟨⟨_, _, hleads.down_of_entry hplaced (hname.isPlain hslash) hentry hlink⟩, hrest⟩
  | @link _ _ _ target hlink =>
      obtain ⟨found, hfound⟩ := hleads.linkStart target
      refine ⟨⟨_, found, hfound⟩, ?_⟩
      intro piece hpiece
      rcases List.mem_append.mp hpiece with hpiece | hpiece
      · exact Text.notMem_of_mem_cutAt hpiece
      · exact (List.forall_mem_cons.mp hnames).2 piece hpiece

theorem IsLegLed.reaches (hplaced : h.IsPlaced) (ha : IsLegLed h a)
    (hroute : Reaches (hop? h) a b) : IsLegLed h b := by
  induction hroute with
  | refl => exact ha
  | tail _ hhop ih => exact ih.hop hplaced hhop

end

end Resolve

namespace Host

open StateTransition (Reaches)

variable {h : Host} {p q : Path}

/-- A strict resolution follows the route of its path. -/
theorem accounts_resolve (h : Host) (p : Path) :
    Resolve.Accounts h (h.calls + 1) [] (Resolve.pathLeg p)
      (Resolve.alongNames h true (Resolve.followLinks h true h.calls) p.names
        ⟨p.isAbsolute, []⟩ []) :=
  Resolve.alongNames_accounts (Resolve.followLinks_accounts h.calls)
    (Resolve.recalls_nil (Resolve.pathLeg p))

/-- A path that resolves strictly resolves to the same path leniently on a host that agrees along
its route, unless that leads into a loop. -/
theorem resolve_of_agrees {other : Host} (hcurrent : other.current = h.current)
    (hcalls : other.calls = h.calls) (hagree : Resolve.Agrees h other (Resolve.pathLeg p))
    (hstrict : h.resolve true p = .ok q) (hloop : other.target q.text ≠ .error .tooManyLinks) :
    other.resolve false p = .ok q := by
  unfold resolve at hstrict ⊢
  split at hstrict
  · cases hstrict
  · rename_i r hfound
    have hother := Resolve.alongNames_agree (Resolve.followLinks_accounts h.calls)
      (Resolve.followLinks_agree h.calls) (Resolve.recalls_nil (Resolve.pathLeg p)) hagree hfound
    have hpath : r.path other = r.path h := by
      cases r <;> simp only [Resolve.Result.path, Resolve.pathFromTop, hcurrent]
    rw [hcalls, hother]
    cases hstrict
    simp only [Bool.false_eq_true, if_false, hpath] at hloop ⊢

theorem resolve_lenient (hstrict : h.resolve true p = .ok q)
    (hloop : h.target q.text ≠ .error .tooManyLinks) : h.resolve false p = .ok q :=
  resolve_of_agrees rfl rfl (fun _ _ _ _ _ => rfl) hstrict hloop

/-- A lenient resolution that succeeds does not lead into a loop. -/
theorem target_of_resolve (hq : h.resolve false p = .ok q) :
    h.target q.text ≠ .error .tooManyLinks := by
  intro hloop
  unfold resolve at hq
  split at hq
  · cases hq
  · simp only [Bool.false_eq_true, if_false] at hq
    split at hq
    · cases hq
    · rename_i hother
      cases hq
      exact hother hloop

/-- A strict resolution that succeeds has followed the route of its path to the end. -/
theorem reaches_of_resolve (hplaced : h.IsPlaced) (hnames : ∀ name ∈ p.names, '/' ∉ name)
    (hq : h.resolve true p = .ok q) :
    ∃ trail place node, Reaches (Resolve.hop? h) (Resolve.pathLeg p) (trail, []) ∧
      Resolve.Leads h trail place node ∧ q = .absolute place := by
  have haccounts := accounts_resolve h p
  unfold resolve at hq
  split at hq
  · cases hq
  · rename_i r hr
    rw [hr] at haccounts
    cases r with
    | stuck text => cases haccounts
    | settled trail links =>
        obtain ⟨hroute, -⟩ := haccounts
        obtain ⟨⟨place, node, hleads⟩, -⟩ :=
          (Resolve.isLegLed_pathLeg hnames).reaches hplaced hroute
        simp only [if_true, Resolve.Result.path, hleads.flatten_eq hplaced] at hq
        cases hq
        exact ⟨trail, place, node, hroute, hleads, rfl⟩

/-- A strict resolution ends at a place that can be walked to from the top. -/
theorem leads_of_resolve (hplaced : h.IsPlaced) (hnames : ∀ name ∈ p.names, '/' ∉ name)
    (hq : h.resolve true p = .ok q) :
    ∃ place node, q = .absolute place ∧ Resolve.Leads h ⟨true, place⟩ place node := by
  obtain ⟨trail, place, node, -, hleads, rfl⟩ := reaches_of_resolve hplaced hnames hq
  exact ⟨place, node, rfl, hleads.fromTop hplaced⟩

/-- A strict resolution fails for a reason that its route shows. -/
theorem stops_of_resolve {fault : Resolve.Fault} (hfault : h.resolve true p = .error fault) :
    Resolve.Stops h (h.calls + 1) (Resolve.pathLeg p) fault := by
  have haccounts := accounts_resolve h p
  unfold resolve at hfault
  split at hfault
  · rename_i e he
    cases hfault
    rw [he] at haccounts
    exact haccounts
  · cases hfault

end Host

end Foldline
