import Foldline.Proofs.PathText
import Foldline.Proofs.Settings

/-! # Walks of the system

What the system finds along a path stands there in the tree. The system gives up on links only where
it has to follow them, so never on a single name whose link is left alone. Where it finds nothing,
it finds nothing farther on either. -/

namespace Foldline

namespace FileTree

variable {t : FileTree} {place : Location} {name : Name}

/-- A walk that ends at a node has found it. -/
theorem find_of_walk {follow : Bool} {links : Nat} {place location : Location} {names : List Name}
    {node : Node}
    (hwalk : t.walk follow place names = .ok (.node location node)) :
    t.find follow false links place names = .ok (location, node) := by
  rw [find.eq_def]
  simp [hwalk]

/-- What is found depends on where the walk leads. -/
theorem find_congr {follow onlyDirectory : Bool} {links : Nat} {place other : Location}
    {names more : List Name}
    (hwalk : t.walk follow place names = t.walk follow other more) :
    t.find follow onlyDirectory links place names =
      t.find follow onlyDirectory links other more := by
  rw [find.eq_def, find.eq_def t follow onlyDirectory links other more]
  dsimp only
  rw [hwalk]

/-- Along a single name, a walk that does not follow links goes from a directory to what has this
name there. -/
theorem node?_of_find_name {links : Nat} {place location : Location} {node : Node}
    (hname : Path.IsPlain name)
    (hfind : t.find false false links place [name] = .ok (location, node)) :
    t.node? place = some .directory ∧ Text.Utf8.size name ≤ maxNameSize ∧
      t.node? (place ++ [name]) = some node ∧ location = place ++ [name] := by
  rw [find.eq_def] at hfind
  by_cases hplace : t.node? place = some .directory
  · by_cases hsize : maxNameSize < Text.Utf8.size name
    · simp [walk, hplace, hname.ne_dot, hname.ne_dotDot, hsize] at hfind
    · refine ⟨hplace, Nat.not_lt.mp hsize, ?_⟩
      cases hnode : t.node? (place ++ [name]) with
      | none => simp [walk, hplace, hname.ne_dot, hname.ne_dotDot, hsize, hnode] at hfind
      | some found =>
          cases found <;> simp_all [walk, hname.ne_dot, hname.ne_dotDot]
  · simp [walk, hplace] at hfind

/-- A walk that ends at a node finds what the tree has there. -/
theorem node?_of_walk {follow : Bool} {place location : Location} {names : List Name} {node : Node}
    (hwalk : t.walk follow place names = .ok (.node location node)) :
    t.node? location = some node := by
  fun_induction t.walk follow place names with
  | case1 place found hfound =>
      cases hwalk
      exact hfound
  | case2 | case3 | case6 | case7 | case9 => simp at hwalk
  | case4 place name rest hplace hdot ih => exact ih hwalk
  | case5 place name rest hplace hdot hup ih => exact ih hwalk
  | case8 place name rest hplace hdot hup hsize target hchild =>
      cases hwalk
      exact hchild
  | case10 place name rest hplace hdot hup hsize found hchild hlink ih => exact ih hwalk

theorem node?_of_find {follow onlyDirectory : Bool} {links : Nat} {place location : Location}
    {names : List Name} {node : Node}
    (hfind : t.find follow onlyDirectory links place names = .ok (location, node)) :
    t.node? location = some node := by
  fun_induction t.find follow onlyDirectory links place names with
  | case1 | case2 | case4 => simp at hfind
  | case3 follow onlyDirectory links place names location node hwalk hkind =>
      cases hfind
      exact node?_of_walk hwalk
  | case5 => rename_i ih; exact ih hfind

/-- A walk up to the first link does not count links. -/
theorem walk_ne_tooManyLinks (follow : Bool) (place : Location) (names : List Name) :
    t.walk follow place names ≠ .error .tooManyLinks := by
  fun_induction walk t follow place names <;> simp_all

/-- A walk that does not follow links goes along a single name to its end. -/
theorem walk_name_ne_link {base : Location} {target : List Char} {rest : List Name} :
    t.walk false place [name] ≠ .ok (.link base target rest) := by
  intro hwalk
  simp only [walk, List.isEmpty_nil, Bool.not_false, Bool.and_self, if_true] at hwalk
  repeat' split at hwalk
  all_goals cases hwalk

theorem find_name_ne_tooManyLinks (links : Nat) :
    t.find false false links place [name] ≠ .error .tooManyLinks := by
  intro hfind
  rw [find.eq_def] at hfind
  cases hstop : t.walk false place [name] with
  | error fault =>
      simp only [hstop] at hfind
      cases hfind
      exact walk_ne_tooManyLinks false place [name] hstop
  | ok stop =>
      cases stop with
      | node location node => simp [hstop] at hfind
      | link base target rest => exact walk_name_ne_link hstop

/-! ## Walks along more names -/

/-- What one name does to a walk, whatever comes after it: it stops the walk, or leads it to another
place, or is that of a link. -/
theorem walk_cons_cases (t : FileTree) (place : Location) (name : Name) :
    (∃ fault, ∀ follow rest, t.walk follow place (name :: rest) = .error fault) ∨
      (∃ next, ∀ follow rest, t.walk follow place (name :: rest) = t.walk follow next rest) ∨
      ∃ target, ∀ follow rest, rest ≠ [] ∨ follow = true →
        t.walk follow place (name :: rest) = .ok (.link place target rest) := by
  by_cases hplace : t.node? place = some .directory
  case neg => exact .inl ⟨.notADirectory, fun _ _ => by simp [walk, hplace]⟩
  by_cases hdot : name = Path.dot
  · exact .inr (.inl ⟨place, fun _ _ => by simp [walk, hplace, hdot]⟩)
  by_cases hup : name = Path.dotDot
  · exact .inr (.inl ⟨place.dropLast, fun _ _ => by
      simp [walk, hplace, hup, Path.dot, Path.dotDot]⟩)
  by_cases hsize : maxNameSize < Text.Utf8.size name
  · exact .inl ⟨.nameTooLong, fun _ _ => by simp [walk, hplace, hdot, hup, hsize]⟩
  cases hnode : t.node? (place ++ [name]) with
  | none => exact .inl ⟨.notFound, fun _ _ => by simp [walk, hplace, hdot, hup, hsize, hnode]⟩
  | some node =>
      cases node with
      | link target =>
          refine .inr (.inr ⟨target, fun follow rest hon => ?_⟩)
          rcases hon with hrest | rfl
          · simp [walk, hplace, hdot, hup, hsize, hnode, hrest]
          · simp [walk, hplace, hdot, hup, hsize, hnode]
      | file bytes =>
          exact .inr (.inl ⟨place ++ [name], fun _ _ => by
            simp [walk, hplace, hdot, hup, hsize, hnode]⟩)
      | directory =>
          exact .inr (.inl ⟨place ++ [name], fun _ _ => by
            simp [walk, hplace, hdot, hup, hsize, hnode]⟩)

/-- A walk along the name of a link and more names stops at the link. -/
theorem walk_of_link {target : List Char} (hplace : t.node? place = some .directory)
    (hname : Path.IsPlain name) (hsize : Text.Utf8.size name ≤ maxNameSize)
    (hlink : t.node? (place ++ [name]) = some (.link target)) (rest : List Name) :
    t.walk true place (name :: rest) = .ok (.link place target rest) := by
  simp [walk, hplace, hname.ne_dot, hname.ne_dotDot, Nat.not_lt.mpr hsize, hlink]

section

variable {names rest : List Name} {follow : Bool}

/-- Where a walk ends at a node, a walk along more names goes on from there. -/
theorem walk_append_of_node {location : Location} {node : Node}
    (hwalk : t.walk true place names = .ok (.node location node)) :
    t.walk follow place (names ++ rest) = t.walk follow location rest := by
  induction names generalizing place with
  | nil =>
      simp only [walk] at hwalk
      split at hwalk
      · cases hwalk
        rfl
      · cases hwalk
  | cons name names ih =>
      rw [List.cons_append]
      rcases walk_cons_cases t place name with ⟨fault, hstop⟩ | ⟨next, hnext⟩ | ⟨target, hlink⟩
      · rw [hstop] at hwalk
        cases hwalk
      · rw [hnext] at hwalk ⊢
        exact ih hwalk
      · rw [hlink _ _ (.inr rfl)] at hwalk
        cases hwalk

/-- Where a walk comes to a link, a walk along more names comes to it with these left. -/
theorem walk_append_of_link {base : Location} {target : List Char} {left : List Name}
    (hwalk : t.walk true place names = .ok (.link base target left))
    (hrest : rest ≠ [] ∨ follow = true) :
    t.walk follow place (names ++ rest) = .ok (.link base target (left ++ rest)) := by
  induction names generalizing place with
  | nil =>
      simp only [walk] at hwalk
      split at hwalk <;> cases hwalk
  | cons name names ih =>
      rw [List.cons_append]
      rcases walk_cons_cases t place name with ⟨fault, hstop⟩ | ⟨next, hnext⟩ | ⟨target, hlink⟩
      · rw [hstop] at hwalk
        cases hwalk
      · rw [hnext] at hwalk ⊢
        exact ih hwalk
      · rw [hlink _ _ (.inr rfl)] at hwalk
        cases hwalk
        exact hlink follow _ (hrest.imp_left fun hne => by simp [hne])

/-- Where a walk fails, a walk along more names fails with the same fault, or because there is no
directory to go on from. -/
theorem walk_append_of_error {fault : SystemFault}
    (hwalk : t.walk true place names = .error fault) :
    t.walk follow place (names ++ rest) = .error fault ∨
      t.walk follow place (names ++ rest) = .error .notADirectory := by
  induction names generalizing place with
  | nil =>
      cases hnode : t.node? place with
      | some node => simp [walk, hnode] at hwalk
      | none =>
          cases rest with
          | nil => exact .inl (by simpa [walk, hnode] using hwalk)
          | cons next rest => exact .inr (by simp [walk, hnode])
  | cons name names ih =>
      rw [List.cons_append]
      rcases walk_cons_cases t place name with ⟨other, hstop⟩ | ⟨next, hnext⟩ | ⟨target, hlink⟩
      · rw [hstop] at hwalk ⊢
        exact .inl hwalk
      · rw [hnext] at hwalk ⊢
        exact ih hwalk
      · rw [hlink _ _ (.inr rfl)] at hwalk
        cases hwalk

end

/-! ## What is found along a walk -/

section

variable {follow onlyDirectory : Bool} {links : Nat} {names rest : List Name}

theorem find_of_walk_error {fault : SystemFault}
    (hwalk : t.walk follow place names = .error fault) :
    t.find follow onlyDirectory links place names = .error fault := by
  rw [find.eq_def]
  simp only [hwalk]

theorem find_of_walk_node {location : Location} {node : Node}
    (hwalk : t.walk follow place names = .ok (.node location node)) :
    t.find follow onlyDirectory links place names =
      if onlyDirectory && node != .directory then .error .notADirectory
      else .ok (location, node) := by
  rw [find.eq_def]
  simp only [hwalk]

variable {base : Location} {target : List Char}
  (hwalk : t.walk follow place names = .ok (.link base target rest))

include hwalk

theorem find_zero_of_walk_link :
    t.find follow onlyDirectory 0 place names = .error .tooManyLinks := by
  rw [find.eq_def]
  simp only [hwalk]

theorem find_succ_of_walk_link :
    t.find follow onlyDirectory (links + 1) place names =
      t.find (follow || rest.isEmpty && target.getLast? == some '/')
        (onlyDirectory || rest.isEmpty && target.getLast? == some '/') links
        (if target.head? == some '/' then [] else base) (Path.namesIn target ++ rest) := by
  rw [find.eq_def]
  simp only [hwalk]

end

section

variable {onlyDirectory stricter follow : Bool} {links fewer : Nat} {names rest : List Name}
  {fault : SystemFault}

/-- Where the system finds nothing along names without coming to a link, it finds nothing along more
of them. -/
theorem find_append_of_no_link
    (hlink : ∀ base target left, t.walk true place names ≠ .ok (.link base target left))
    (hfind : t.find true onlyDirectory links place names = .error fault)
    (hfault : fault ≠ .nameTooLong)
    (hrest : rest ≠ [] ∨ follow = true ∧ (onlyDirectory = true → stricter = true)) :
    ∃ other, t.find follow stricter fewer place (names ++ rest) = .error other ∧
      other ≠ .nameTooLong := by
  cases hwalk : t.walk true place names with
  | error found =>
      rw [find_of_walk_error hwalk] at hfind
      cases hfind
      rcases walk_append_of_error hwalk with hmore | hmore
      · exact ⟨fault, find_of_walk_error hmore, hfault⟩
      · exact ⟨.notADirectory, find_of_walk_error hmore, by simp⟩
  | ok stop =>
      cases stop with
      | link base target left => exact absurd hwalk (hlink base target left)
      | node location node =>
          -- A directory was wanted, and this is none, so there is no way on from it either.
          refine ⟨.notADirectory, ?_, by simp⟩
          rw [find_of_walk_node hwalk] at hfind
          split at hfind
          · rename_i hnode
            obtain ⟨hdirectory, hnode⟩ := Bool.and_eq_true_iff.mp hnode
            have hmore : t.walk follow place (names ++ rest) = t.walk follow location rest :=
              walk_append_of_node hwalk
            have hfound := node?_of_walk hwalk
            cases rest with
            | nil =>
                have hstricter : stricter = true := (hrest.resolve_left (by simp)).2 hdirectory
                simp only [walk, hfound] at hmore
                rw [find_of_walk_node hmore, hstricter, hnode]
                rfl
            | cons next rest =>
                apply find_of_walk_error
                rw [hmore]
                have hno : t.node? location ≠ some .directory := by
                  rw [hfound]
                  simpa using hnode
                simp [walk, hno]
          · cases hfind

/-- Where the system finds nothing along names, it finds nothing along more of them with fewer
links, and does not come to a name that is too long on the way. -/
theorem find_append_of_error (hfind : t.find true onlyDirectory links place names = .error fault)
    (hfault : fault ≠ .nameTooLong) (hfewer : fewer ≤ links)
    (hrest : rest ≠ [] ∨ follow = true ∧ (onlyDirectory = true → stricter = true)) :
    ∃ other, t.find follow stricter fewer place (names ++ rest) = .error other ∧
      other ≠ .nameTooLong := by
  induction fewer using Nat.strongRecOn generalizing onlyDirectory stricter follow links place
    names with
  | ind fewer ih =>
      by_cases hlink : ∃ base target left, t.walk true place names = .ok (.link base target left)
      case neg =>
        have hno : ∀ base target left, t.walk true place names ≠ .ok (.link base target left) :=
          fun base target left hwalk => hlink ⟨base, target, left, hwalk⟩
        exact find_append_of_no_link hno hfind hfault hrest
      obtain ⟨base, target, left, hwalk⟩ := hlink
      have hmore := walk_append_of_link hwalk (hrest.imp_right And.left)
      cases fewer with
      | zero => exact ⟨.tooManyLinks, find_zero_of_walk_link hmore, by simp⟩
      | succ fewer =>
          obtain ⟨links, rfl⟩ : ∃ n, links = n + 1 := ⟨links - 1, by omega⟩
          rw [find_succ_of_walk_link hwalk, Bool.true_or] at hfind
          rw [find_succ_of_walk_link hmore, ← List.append_assoc]
          refine ih fewer (Nat.lt_succ_self fewer) hfind (Nat.le_of_succ_le_succ hfewer) ?_
          rcases hrest with hrest | ⟨rfl, hstricter⟩
          · exact .inl hrest
          cases rest with
          | cons next rest => exact .inl (by simp)
          | nil =>
              refine .inr ⟨Bool.true_or _, fun hdirectory => ?_⟩
              rw [List.append_nil]
              rcases Bool.or_eq_true_iff.mp hdirectory with hdirectory | hslash
              · exact Bool.or_eq_true_iff.mpr (.inl (hstricter hdirectory))
              · exact Bool.or_eq_true_iff.mpr (.inr hslash)

end

end FileTree

namespace Host

variable {h : Host}

/-- The system walks along no text that is too long. -/
theorem size_le_of_locate {follow : Bool} {path : List Char} {found : Location × Node}
    (hlocate : h.locate follow path = .ok found) :
    Text.Utf8.size path ≤ FileTree.maxPathSize := by
  unfold locate at hlocate
  split at hlocate
  · cases hlocate
  split at hlocate
  · cases hlocate
  · exact Nat.not_lt.mp ‹_›

theorem node?_of_locate {follow : Bool} {path : List Char} {location : Location} {node : Node}
    (hpath : h.locate follow path = .ok (location, node)) :
    h.tree.node? location = some node := by
  unfold locate at hpath
  split at hpath
  · cases hpath
  split at hpath
  · cases hpath
  · exact FileTree.node?_of_find hpath

end Host

end Foldline
