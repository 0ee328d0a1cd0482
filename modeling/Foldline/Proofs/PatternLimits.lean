import Foldline.Proofs.PatternReader
import Foldline.Proofs.Settings
import Foldline.Source.Read
import Mathlib.Data.List.Induction

/-! # Limits that a pattern can break

The content of groups is followed like every other part of a pattern, level by level. So a pattern
that breaks a limit shows in its text where, and this is the only way in which a check of settings
can end other than with success or with a refusal.

## Implementation notes

Look-behinds are judged after the whole text has been read. What is carried along instead is that an
expression holds a look-behind only if the text opens one. -/

namespace Foldline.Pattern

namespace Reader

variable {levels spare : Nat} {source before : List Char}

theorem isFounded_of_or {e a b : Expression}
    (h : e.looksTooFarBack = (a.looksTooFarBack || b.looksTooFarBack)) (ha : IsFounded source a)
    (hb : IsFounded source b) : IsFounded source e := by
  intro he
  rw [h, Bool.or_eq_true_iff] at he
  exact he.elim ha hb

/-- Each part of a row has its look-behinds from the text. -/
def AreFounded (source : List Char) (row : Row) : Prop := ∀ p ∈ row, IsFounded source p

theorem isFounded_expression {row : Row} (h : AreFounded source row) :
    IsFounded source row.expression := by
  induction row with
  | nil => exact isFounded_of_eq_false rfl
  | cons p rest ih =>
      obtain ⟨hp, hrest⟩ := List.forall_mem_cons.mp h
      cases rest with
      | nil => exact hp
      | cons q rest => exact isFounded_of_or rfl hp (ih hrest)

theorem areFounded_tailsAfter? {p : Expression} {rows tails : List Row}
    (h : tailsAfter? p rows = some tails) (hrows : ∀ row ∈ rows, AreFounded source row) :
    ∀ row ∈ tails, AreFounded source row := by
  fun_induction tailsAfter? p rows generalizing tails with
  | case1 =>
      cases h
      exact List.forall_mem_nil _
  | case2 => cases h
  | case3 q rest others _ ih =>
      obtain ⟨tails', htails, rfl⟩ := Option.map_eq_some_iff.mp h
      obtain ⟨hrow, hothers⟩ := List.forall_mem_cons.mp hrows
      exact List.forall_mem_cons.mpr ⟨(List.forall_mem_cons.mp hrow).2, ih htails hothers⟩
  | case4 => cases h

theorem areFounded_commonStart {first : Row} {others : List Row} (hfirst : AreFounded source first)
    (hothers : ∀ row ∈ others, AreFounded source row) :
    AreFounded source (commonStart first others).1 ∧
      ∀ row ∈ (commonStart first others).2, AreFounded source row := by
  fun_induction commonStart first others with
  | case1 others => exact ⟨List.forall_mem_nil _, List.forall_mem_cons.mpr ⟨hfirst, hothers⟩⟩
  | case2 others p rest tails htails common left hcommon ih =>
      obtain ⟨hp, hrest⟩ := List.forall_mem_cons.mp hfirst
      have hleft := ih hrest (areFounded_tailsAfter? htails hothers)
      rw [hcommon] at hleft
      exact ⟨List.forall_mem_cons.mpr ⟨hp, hleft.1⟩, hleft.2⟩
  | case3 => exact ⟨List.forall_mem_nil _, List.forall_mem_cons.mpr ⟨hfirst, hothers⟩⟩

theorem isFounded_branchRow {rows : List Row} (h : ∀ row ∈ rows, AreFounded source row) :
    IsFounded source (branchRow rows) := by
  induction rows with
  | nil => exact isFounded_of_eq_false rfl
  | cons row others ih =>
      obtain ⟨hrow, hothers⟩ := List.forall_mem_cons.mp h
      exact isFounded_of_or rfl (isFounded_expression hrow) (ih hothers)

theorem areFounded_alternatives {rows : List Row} (h : ∀ row ∈ rows, AreFounded source row) :
    AreFounded source (alternatives rows) := by
  fun_cases alternatives rows with
  | case1 => exact List.forall_mem_nil _
  | case2 row => exact List.forall_mem_singleton.mp h
  | case3 first others _ common left hcommon items _ =>
      obtain ⟨hfirst, hothers⟩ := List.forall_mem_cons.mp h
      have hstart := areFounded_commonStart hfirst hothers
      rw [hcommon] at hstart
      exact List.forall_mem_append.mpr
        ⟨hstart.1, List.forall_mem_singleton.mpr (isFounded_of_eq_false rfl)⟩
  | case4 first others _ common left hcommon _ =>
      obtain ⟨hfirst, hothers⟩ := List.forall_mem_cons.mp h
      have hstart := areFounded_commonStart hfirst hothers
      rw [hcommon] at hstart
      exact List.forall_mem_append.mpr
        ⟨hstart.1, List.forall_mem_singleton.mpr (isFounded_branchRow hstart.2)⟩

/-- The parts of items have their look-behinds from the text. -/
def AreFoundedItems (source : List Char) (items : List Item) : Prop :=
  ∀ item ∈ items, AreFounded source item.parts

theorem areFounded_ofPart {p : Expression} (h : IsFounded source p) :
    AreFounded source (Item.ofPart p).parts := by
  unfold Item.ofPart
  split <;> exact List.forall_mem_singleton.mpr h

theorem areFounded_rowOf {items : List Item} (h : AreFoundedItems source items) :
    AreFounded source (rowOf items) := by
  intro p hp
  obtain ⟨row, hrow, hp⟩ := List.mem_flatten.mp hp
  obtain ⟨item, hitem, rfl⟩ := List.mem_map.mp hrow
  exact h item (List.mem_reverse.mp hitem) p hp

theorem AreFoundedItems.ofPart_cons {items : List Item} {p : Expression}
    (h : AreFoundedItems source items) (hp : IsFounded source p) :
    AreFoundedItems source (.ofPart p :: items) :=
  List.forall_mem_cons.mpr ⟨areFounded_ofPart hp, h⟩

theorem runs_greed : Runs levels spare source before greed :=
  .bind runs_accept fun _ => .ite (fun _ => .ret) fun _ =>
    .bind runs_accept fun _ => .ite (fun _ => .ret) fun _ => .ret

theorem gives_quantify {least start : Nat} {most : Option Nat} {items : List Item}
    (h : AreFoundedItems source items) :
    Gives levels spare source before (AreFoundedItems source)
      (quantify least most start items) := by
  cases items with
  | nil => exact .failAt
  | cons item earlier =>
      obtain ⟨hitem, hearlier⟩ := List.forall_mem_cons.mp h
      rw [quantify]
      split
      · exact .failAt
      · exact .failAt
      · refine .bind runs_greed fun _ => .pure fun _ hs => ⟨?_, hs⟩
        have hpart : IsFounded source item.parts.expression := isFounded_expression hitem
        exact List.forall_mem_cons.mpr ⟨List.forall_mem_singleton.mpr hpart, hearlier⟩

/-! ## Nesting -/

/-- A reader whose results have the property `φ`, and that may use up the parentheses that are
left. -/
abbrev Spends (levels spare : Nat) (source before : List Char) (φ : Row → Prop) (m : Reader Row) :
    Prop :=
  Triple levels source (At levels spare source before) m
    fun row s => φ row ∧ At levels 0 source [] s

/-- The readers that call each other, with a common bound on their steps. What comes after an
opening parenthesis has this one left to go down a level. -/
structure Nested (levels : Nat) (source : List Char) (n : Nat) : Prop where
  branches : ∀ {before top verbose},
    Gives levels 0 source before (AreFounded source) (branches top n verbose)
  moreBranches : ∀ {before top verbose},
    Gives levels 0 source before (∀ row ∈ ·, AreFounded source row) (moreBranches top n verbose)
  sequence : ∀ {spare before top atStart verbose items}, AreFoundedItems source items →
    Spends levels spare source before (AreFounded source) (sequence top atStart n verbose items)
  look : ∀ {before verbose backward negated start}, (backward = true → LooksBehind source) →
    Gives levels 1 source before (IsFounded source) (look n verbose backward negated start)
  condition : ∀ {before verbose start},
    Gives levels 1 source before (IsFounded source) (condition n verbose start)
  group : ∀ {before verbose capturing isAtomic name on off start},
    Gives levels 1 source before (fun item => AreFounded source item.parts)
      (group n verbose capturing isAtomic name on off start)

namespace Nested

theorem zero : Nested levels source 0 where
  branches := .fail
  moreBranches := .fail
  sequence _ := .fail
  look _ := .fail
  condition := .fail
  group := .fail

variable {n : Nat} {verbose : Bool}

theorem branches_succ (h : Nested levels source n) {top : Bool} :
    Gives levels 0 source before (AreFounded source) (Reader.branches top (n + 1) verbose) := by
  refine .bind_fact (h.sequence (List.forall_mem_nil _)) fun first hfirst =>
    .bind runs_accept fun _ => .ite (fun _ => ?_) fun _ => .pure fun _ hs => ⟨hfirst, hs⟩
  extract_lets rest
  have hrest : ∀ verbose, Gives levels 0 source [] (AreFounded source) (rest verbose) := fun _ =>
    h.moreBranches.bind_fact fun others hothers => .pure fun _ hs =>
      ⟨areFounded_alternatives (List.forall_mem_cons.mpr ⟨hfirst, hothers⟩), hs⟩
  exact .ite (fun _ => .inspect fun _ _ => .bind .ret hrest) fun _ => .bind .ret hrest

theorem moreBranches_succ (h : Nested levels source n) {top : Bool} :
    Gives levels 0 source before (∀ row ∈ ·, AreFounded source row)
      (Reader.moreBranches top (n + 1) verbose) := by
  refine .bind_fact (h.sequence (List.forall_mem_nil _)) fun first hfirst =>
    .bind runs_accept fun _ => .ite (fun _ => ?_) fun _ => .pure fun _ hs => ?_
  · exact h.moreBranches.bind_fact fun others hothers => .pure fun _ hs =>
      ⟨List.forall_mem_cons.mpr ⟨hfirst, hothers⟩, hs⟩
  · exact ⟨List.forall_mem_singleton.mpr hfirst, hs⟩

theorem look_succ (h : Nested levels source n) {backward negated : Bool} {start : Nat}
    (hback : backward = true → LooksBehind source) :
    Gives levels 1 source before (IsFounded source)
      (Reader.look (n + 1) verbose backward negated start) := by
  refine .inspect fun s _ => ?_
  -- both times the note on the look-behind may change and nothing else
  extract_lets outer rest
  have hrest : ∀ u, Gives levels 1 source [] (IsFounded source) (rest u) := by
    refine fun _ => .bind_fact (gives_nested h.branches) fun row hrow => ?_
    extract_lets body last
    have hlast : ∀ u, Gives levels 1 source [] (IsFounded source) (last u) := by
      refine fun _ => .bind runs_expectClose fun _ => .bind triple_groupWidths fun _ =>
        .pure fun _ hs => ⟨?_, hs⟩
      intro hfar
      rcases Bool.or_eq_true_iff.mp hfar with hhere | hinside
      · exact hback (Bool.and_eq_true_iff.mp hhere).1
      · exact isFounded_expression hrow hinside
    exact .ite (fun _ => .bind (.modify fun _ hs => ⟨hs.unread, hs.flags, hs.opened⟩) hlast)
      fun _ => hlast ()
  exact .ite (fun _ => .bind (.modify fun _ hs => ⟨hs.start.unread, hs.flags, hs.opened⟩) hrest)
    fun _ => .weaken (hrest ()) (fun _ hs => hs.start) fun _ _ hs => hs

theorem condition_succ (h : Nested levels source n) {start : Nat} :
    Gives levels 1 source before (IsFounded source) (Reader.condition (n + 1) verbose start) := by
  refine .bind runs_conditionGroup fun asked => .bind triple_checkLookbehind fun _ =>
    .bind_fact (gives_nested (h.sequence (List.forall_mem_nil _))) fun present hpresent =>
    .bind runs_accept fun _ => ?_
  extract_lets rest
  have hrest : ∀ absent, Triple levels source
      (fun s => AreFounded source absent ∧ At levels 1 source [] s) (rest absent)
      fun e s => IsFounded source e ∧ At levels 1 source [] s := fun absent =>
    .of_fact fun habsent => .bind runs_expectClose fun _ => .pure fun _ hs =>
      ⟨isFounded_of_or rfl (isFounded_expression hpresent) (isFounded_expression habsent), hs⟩
  refine .ite (fun _ => ?_) fun _ => ?_
  · exact .bind_fact (gives_nested (h.sequence (List.forall_mem_nil _))) fun absent habsent =>
      .bind triple_peek fun _ => .check <| .bind (.pure fun _ hs => ⟨habsent, hs.2⟩) hrest
  · exact .bind (.pure fun _ hs => ⟨List.forall_mem_nil _, hs⟩) hrest

theorem group_succ (h : Nested levels source n) {capturing isAtomic : Bool}
    {name : Option (List Char)} {on off : Flags} {start : Nat} :
    Gives levels 1 source before (fun item => AreFounded source item.parts)
      (Reader.group (n + 1) verbose capturing isAtomic name on off start) := by
  refine .ite_bind (fun _ => runs_openGroup) (fun _ => .pure fun _ hs => hs.start) fun number =>
    .bind_fact (gives_nested h.branches) fun row hrow => .bind runs_expectClose fun _ => ?_
  have hbody := isFounded_expression hrow
  refine .ite (fun _ => .bind runs_closeGroup fun _ => ?_) fun _ => ?_
  · exact .pure fun _ hs => ⟨List.forall_mem_singleton.mpr hbody, hs⟩
  refine .ite (fun _ => .pure fun _ hs => ⟨List.forall_mem_singleton.mpr hbody, hs⟩) fun _ => ?_
  refine .ite (fun _ => .pure fun _ hs => ⟨hrow, hs⟩) fun _ => ?_
  exact .pure fun _ hs => ⟨List.forall_mem_singleton.mpr hbody, hs⟩

/-- A row is read item by item; each item is one part of the text. -/
theorem sequence_succ (h : Nested levels source n) {top atStart : Bool} {items : List Item}
    (hitems : AreFoundedItems source items) :
    Spends levels spare source before (AreFounded source)
      (Reader.sequence top atStart (n + 1) verbose items) := by
  have hpart : ∀ {p : Expression} {verbose : Bool} {spare : Nat} {before : List Char},
      IsFounded source p → Spends levels spare source before (AreFounded source)
        (Reader.sequence top atStart n verbose (.ofPart p :: items)) := fun hp =>
    h.sequence (hitems.ofPart_cons hp)
  have hleaf : ∀ {p : Expression} {verbose : Bool} {spare : Nat} {before : List Char},
      p.looksTooFarBack = false → Spends levels spare source before (AreFounded source)
        (Reader.sequence top atStart n verbose (.ofPart p :: items)) := fun hp =>
    hpart (isFounded_of_eq_false hp)
  have hquantified : ∀ {least start : Nat} {most : Option Nat} {verbose : Bool} {spare : Nat}
      {before : List Char}, Spends levels spare source before (AreFounded source) (do
        Reader.sequence top atStart n verbose (← quantify least most start items)) :=
    .bind_fact (gives_quantify hitems) fun _ hitems' => h.sequence hitems'
  -- of the parentheses that are left none is needed
  suffices hnone : Spends levels 0 source before (AreFounded source)
      (Reader.sequence top atStart (n + 1) verbose items) from
    .weaken hnone (fun _ hs => At.lower ((Nat.zero_add spare).symm ▸ hs)) fun _ _ hs => hs
  refine .bind triple_peek fun t => ?_
  cases t with
  | none => exact .pure fun _ hs => ⟨areFounded_rowOf hitems, hs.2.start⟩
  | some t =>
      refine .ite (fun _ => .pure fun _ hs => ⟨areFounded_rowOf hitems, hs.2.start⟩) fun _ =>
        .bind triple_position fun start => .bind triple_take fun _ => ?_
      cases t with
      | escaped c => exact .bind_fact gives_escape fun _ hp => hpart hp
      | plain c =>
          -- what verbose patterns skip
          refine .ite (fun _ => h.sequence hitems) fun _ => ?_
          refine .ite (fun _ => .bind triple_remaining fun _ => .bind runs_skipLine fun _ =>
            h.sequence hitems) fun _ => ?_
          refine .ite (fun _ => .bind_fact gives_charSet fun _ hp => hpart hp) fun _ => ?_
          -- quantifiers, of which only bounds in braces can break a limit
          refine .ite (fun _ => hquantified) fun _ => ?_
          refine .ite (fun _ => hquantified) fun _ => ?_
          refine .ite (fun _ => hquantified) fun _ => ?_
          refine .ite (fun hc => ?braces) fun _ => ?_
          case braces =>
            obtain rfl := eq_of_beq hc
            refine .weaken (.bind runs_bounds? fun r => ?_) (fun _ hs => hs.drop before)
              fun _ _ hs => hs
            rcases r with _ | ⟨least, most⟩
            · exact hleaf rfl
            · exact hquantified
          refine .ite (fun _ => hleaf rfl) fun _ => ?_
          refine .ite (fun _ => hleaf rfl) fun _ => ?_
          refine .ite (fun _ => hleaf rfl) fun _ => ?_
          refine .ite (fun hc => ?_) fun _ => hleaf rfl
          -- the parenthesis is the last character before what the opening reads, and it is left
          obtain rfl := eq_of_beq hc
          refine .weaken (.bind_fact gives_opening fun o ho => ?_)
            (fun _ hs => show At levels 1 source ['('] _ from hs.drop before) fun _ _ hs => hs
          cases o with
          | nothing =>
              exact .ite (fun _ => .inspect fun _ _ => .bind .ret fun _ =>
                h.sequence hitems) fun _ => .bind .ret fun _ => h.sequence hitems
          | item p => exact hpart ho
          | look backward negated => exact .bind_fact (h.look ho) fun _ hp => hpart hp
          | condition => exact .bind_fact h.condition fun _ hp => hpart hp
          | group capturing isAtomic name on off =>
              exact .bind_fact h.group fun item hitem =>
                h.sequence (List.forall_mem_cons.mpr ⟨hitem, hitems⟩)

theorem succ (h : Nested levels source n) : Nested levels source (n + 1) where
  branches := h.branches_succ
  moreBranches := h.moreBranches_succ
  sequence := h.sequence_succ
  look := h.look_succ
  condition := h.condition_succ
  group := h.group_succ

theorem all (n : Nat) : Nested levels source n := by
  induction n with
  | zero => exact zero
  | succ n ih => exact ih.succ

end Nested

end Reader

end Foldline.Pattern

namespace Foldline

namespace Config

variable {levels : Nat} {c : Config} {e : Pattern.Error}

/-- The pattern breaks a limit, and its text shows where. -/
def Exceeds (levels : Nat) (c : Config) (e : Pattern.Error) : Prop :=
  ∃ source : String, c.keyPattern = .text source ∧
    Pattern.readWithin levels source.toList = .error e ∧ Pattern.Exceeds levels source.toList e

end Config

namespace Source

variable {h : Host} {p : Path} {c : Config} {limit : Option LineLimit}

end Source

/-- Where there is room for one level, a group in a group is too deep. -/
example : Config.checkWithin 1 { keyPattern := .text "((a))" } = .error (.limit .tooDeep) := by
  decide +kernel

end Foldline
