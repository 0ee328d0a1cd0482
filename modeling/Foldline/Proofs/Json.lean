import Foldline.Value

/-! # Reading JSON back

A reader of JSON texts with integers, strings without escapes, lists and objects, to say what a
printed object means. A reader takes the text of a value whatever comes after it, as long as that
is not more of a number. This carries over from the parts of a list or an object to the whole. -/

namespace Foldline

namespace Decimal

/-- The characters of decimal integers. -/
def isPart (c : Char) : Bool := c.isDigit || c == '-'

/-- The number that digits stand for. -/
def readNat? (digits : List Char) : Option Nat :=
  if digits.isEmpty || !digits.all Char.isDigit then none else some (Nat.ofDigitChars 10 digits 0)

/-- The integer that a sign and digits stand for. -/
def read? : List Char → Option Int
  | '-' :: digits => (readNat? digits).map fun n : Nat => -(n : Int)
  | digits => (readNat? digits).map Int.ofNat

theorem isDigit_of_mem_toDigits {n : Nat} {c : Char} (hc : c ∈ Nat.toDigits 10 n) :
    c.isDigit = true :=
  Nat.isDigit_of_mem_toDigits (by decide) (by decide) hc

theorem readNat?_toDigits (n : Nat) : readNat? (Nat.toDigits 10 n) = some n := by
  have hdigits : (Nat.toDigits 10 n).all Char.isDigit = true :=
    List.all_eq_true.mpr fun c hc => isDigit_of_mem_toDigits hc
  have hne : (Nat.toDigits 10 n).isEmpty = false := by simp [Nat.toDigits_ne_nil]
  rw [readNat?, hdigits, hne, Nat.ofDigitChars_ten_toDigits]
  rfl

theorem toList_toString (n : Int) :
    (toString n).toList =
      if 0 ≤ n then Nat.toDigits 10 n.toNat else '-' :: Nat.toDigits 10 (-n).toNat := by
  rw [Int.toString_eq_repr, Int.repr_eq_if]
  split <;> simp

/-- A printed integer reads as itself. -/
theorem read?_toString (n : Int) : read? (toString n).toList = some n := by
  rw [toList_toString]
  split
  · rename_i hn
    unfold read?
    split
    · rename_i digits hdash
      have hdigit : '-'.isDigit = true := isDigit_of_mem_toDigits (hdash ▸ List.mem_cons_self)
      cases hdigit
    · rw [readNat?_toDigits, Option.map_some, Int.ofNat_eq_natCast, Int.toNat_of_nonneg hn]
  · rename_i hn
    have hback : -(((-n).toNat : Nat) : Int) = n := by omega
    rw [read?, readNat?_toDigits, Option.map_some, hback]

theorem isPart_of_mem_toString {n : Int} {c : Char} (hc : c ∈ (toString n).toList) :
    isPart c = true := by
  rw [toList_toString] at hc
  split at hc
  · simp [isPart, isDigit_of_mem_toDigits hc]
  · rcases List.mem_cons.mp hc with rfl | hc
    · rfl
    · simp [isPart, isDigit_of_mem_toDigits hc]

/-- A printed integer starts with a part of a number. -/
theorem exists_toString_eq_cons (n : Int) :
    ∃ c text, (toString n).toList = c :: text ∧ isPart c = true := by
  cases htext : (toString n).toList with
  | nil =>
      have hread := read?_toString n
      rw [htext] at hread
      cases hread
  | cons c text => exact ⟨c, text, rfl, isPart_of_mem_toString (htext ▸ List.mem_cons_self)⟩

end Decimal

namespace Json

variable {α : Type}

/-- What takes something from the front of a text and leaves the rest. -/
abbrev Reader (α : Type) := List Char → Option (α × List Char)

def isBlank (c : Char) : Bool := c == ' ' || c == '\n' || c == '\t' || c == '\r'

def skip (text : List Char) : List Char := text.dropWhile isBlank

def readInt? : Reader Int := fun text =>
  (Decimal.read? (text.takeWhile Decimal.isPart)).map fun n => (n, text.dropWhile Decimal.isPart)

/-- A string in quotes. One with escapes is refused. -/
def readString? : Reader String
  | '"' :: text =>
      let body := text.takeWhile (· != '"')
      match text.drop body.length with
      | [] => none
      | _ :: rest => if body.contains '\\' then none else some (String.ofList body, rest)
  | _ => none

/-- One item or more with commas between them, up to a closing mark. -/
def readItems? (item : Reader α) (close : Char) : (fuel : Nat) → Reader (List α)
  | 0, _ => none
  | fuel + 1, text =>
      match item text with
      | none => none
      | some (x, rest) =>
          match skip rest with
          | [] => none
          | mark :: rest =>
              if mark == ',' then
                (readItems? item close fuel rest).map fun (xs, rest) => (x :: xs, rest)
              else if mark == close then some ([x], rest)
              else none

/-- Any number of items up to a closing mark. -/
def readGroup? (item : Reader α) (close : Char) : Reader (List α) := fun text =>
  match skip text with
  | [] => none
  | mark :: rest =>
      if mark == close then some ([], rest) else readItems? item close text.length text

/-- A key and a value. -/
def readField? (value : Reader Value) : Reader (String × Value) := fun text =>
  match readString? (skip text) with
  | none => none
  | some (key, rest) =>
      match skip rest with
      | ':' :: rest => (value rest).map fun (v, rest) => ((key, v), rest)
      | _ => none

/-- A value in which lists and objects are nested less than `depth` deep. -/
def readValue? : (depth : Nat) → Reader Value
  | 0, _ => none
  | depth + 1, text =>
      match skip text with
      | '"' :: rest => (readString? ('"' :: rest)).map fun (s, rest) => (.text s, rest)
      | '[' :: rest =>
          (readGroup? (readValue? depth) ']' rest).map fun (items, rest) => (.list items, rest)
      | '\x7b' :: rest =>
          (readGroup? (readField? (readValue? depth)) '\x7d' rest).map fun (entries, rest) =>
            (.table entries, rest)
      | 'n' :: 'u' :: 'l' :: 'l' :: rest => some (.null, rest)
      | rest => (readInt? rest).map fun (n, rest) => (.int n, rest)

/-- How deep lists and objects may be nested. -/
def maxDepth : Nat := 1000

/-- The value that a text stands for. -/
def read? (text : List Char) : Option Value :=
  match readValue? maxDepth text with
  | none => none
  | some (v, rest) => if (skip rest).isEmpty then some v else none

/-- A reader takes a text for a value, whatever follows that could not belong to a number. -/
def Takes (reader : Reader α) (text : List Char) (x : α) : Prop :=
  ∀ rest : List Char, (∀ c ∈ rest.head?, Decimal.isPart c = false) →
    reader (text ++ rest) = some (x, rest)

theorem Takes.before {reader : Reader α} {text : List Char} {x : α} (h : Takes reader text x)
    {mark : Char} (hmark : Decimal.isPart mark = false) (rest : List Char) :
    reader (text ++ mark :: rest) = some (x, mark :: rest) :=
  h (mark :: rest) (by simpa using hmark)

theorem skip_cons_of_not {c : Char} {text : List Char} (hc : isBlank c = false) :
    skip (c :: text) = c :: text := by
  simp [skip, hc]

theorem takes_readInt? (n : Int) : Takes readInt? (toString n).toList n := by
  intro rest hrest
  have hparts : ∀ c ∈ (toString n).toList, Decimal.isPart c = true :=
    fun c hc => Decimal.isPart_of_mem_toString hc
  have htake : rest.takeWhile Decimal.isPart = [] := by
    cases rest with
    | nil => rfl
    | cons c _ => simp [hrest c rfl]
  have hdrop : rest.dropWhile Decimal.isPart = rest := by
    cases rest with
    | nil => rfl
    | cons c _ => simp [hrest c rfl]
  rw [readInt?, List.takeWhile_append_of_pos hparts, htake, List.append_nil,
    List.dropWhile_append_of_pos hparts, hdrop, Decimal.read?_toString]
  rfl

theorem takes_readString? {s : String} (hquote : '"' ∉ s.toList) (hescape : '\\' ∉ s.toList) :
    Takes readString? ('"' :: s.toList ++ ['"']) s := by
  intro rest _
  have hbody : (s.toList ++ '"' :: rest).takeWhile (· != '"') = s.toList := by
    rw [List.takeWhile_append_of_pos (by
      intro c hc
      exact bne_iff_ne.mpr fun h => hquote (h ▸ hc))]
    simp
  have htext : '"' :: s.toList ++ ['"'] ++ rest = '"' :: (s.toList ++ '"' :: rest) := by simp
  rw [htext, readString?]
  simp [hbody, hescape]

/-- Texts with commas and blanks between them. -/
def joined (texts : List (List Char)) : List Char := [',', ' '].intercalate texts

theorem joined_cons_cons (text next : List Char) (texts : List (List Char)) :
    joined (text :: next :: texts) = text ++ ',' :: ' ' :: joined (next :: texts) := by
  simp [joined, List.intercalate_cons_cons]

section Group

variable {item : Reader α} {close : Char} {entries : List (List Char × α)}

/-- Items with commas between them are taken one by one. -/
theorem readItems?_joined (hblank : ∀ text, item (' ' :: text) = item text)
    (hclose : close = ']' ∨ close = '\x7d') (hitems : ∀ e ∈ entries, Takes item e.1 e.2)
    (hne : entries ≠ []) (fuel : Nat) (hfuel : (joined (entries.map (·.1))).length < fuel)
    (rest : List Char) :
    readItems? item close fuel (joined (entries.map (·.1)) ++ close :: rest) =
      some (entries.map (·.2), rest) := by
  induction entries generalizing fuel with
  | nil => exact absurd rfl hne
  | cons e others ih =>
      obtain ⟨text, x⟩ := e
      obtain ⟨fuel, rfl⟩ : ∃ n, fuel = n + 1 := ⟨fuel - 1, by omega⟩
      obtain ⟨hitem, hothers⟩ := List.forall_mem_cons.mp hitems
      cases others with
      | nil =>
          have hend : Decimal.isPart close = false := by rcases hclose with rfl | rfl <;> decide
          rw [List.map_singleton, joined, List.intercalate_singleton, readItems?, hitem.before hend]
          rcases hclose with rfl | rfl <;> simp [skip, isBlank]
      | cons next others =>
          simp only [List.map_cons, joined_cons_cons, List.length_append, List.length_cons]
            at hfuel ih ⊢
          have hrest := ih hothers (by simp) fuel (by omega)
          obtain ⟨fuel, rfl⟩ : ∃ n, fuel = n + 1 := ⟨fuel - 1, by omega⟩
          rw [readItems?, ← hblank] at hrest
          rw [List.append_assoc, List.cons_append, List.cons_append, readItems?,
            hitem.before (by decide)]
          simp only [skip_cons_of_not (c := ',') rfl, beq_self_eq_true, if_true]
          rw [readItems?, hrest]
          rfl

/-- A group of items is taken as a whole if none of them starts like the end of the group. -/
theorem readGroup?_joined (hblank : ∀ text, item (' ' :: text) = item text)
    (hclose : close = ']' ∨ close = '\x7d') (hitems : ∀ e ∈ entries, Takes item e.1 e.2)
    (hstart : ∀ e ∈ entries, ∃ c text, e.1 = c :: text ∧ isBlank c = false ∧ c ≠ close)
    (rest : List Char) :
    readGroup? item close (joined (entries.map (·.1)) ++ close :: rest) =
      some (entries.map (·.2), rest) := by
  cases entries with
  | nil => rcases hclose with rfl | rfl <;> simp [joined, readGroup?, skip, isBlank]
  | cons e others =>
      obtain ⟨c, text, he, hc, hne⟩ := hstart e List.mem_cons_self
      obtain ⟨tail, htail⟩ : ∃ tail, joined ((e :: others).map (·.1)) = c :: tail := by
        cases others with
        | nil => exact ⟨text, by simp [joined, he]⟩
        | cons next others => exact ⟨_, by simp [joined_cons_cons, he]; rfl⟩
      have hitems := readItems?_joined hblank hclose hitems (by simp)
        (joined ((e :: others).map (·.1)) ++ close :: rest).length (by simp) rest
      rw [htail, List.cons_append] at hitems ⊢
      simp only [readGroup?, skip_cons_of_not hc, beq_iff_eq, hne, if_false]
      exact hitems

end Group

section Values

variable {depth : Nat}

theorem readValue?_blank (depth : Nat) (text : List Char) :
    readValue? depth (' ' :: text) = readValue? depth text := by
  cases depth with
  | zero => rfl
  | succ depth => simp [readValue?, skip, isBlank]

theorem readField?_blank (value : Reader Value) (text : List Char) :
    readField? value (' ' :: text) = readField? value text := by
  simp [readField?, skip, isBlank]

theorem takes_null : Takes (readValue? (depth + 1)) "null".toList .null := by
  intro rest _
  simp [readValue?, skip, isBlank]

theorem takes_text {s : String} (hquote : '"' ∉ s.toList) (hescape : '\\' ∉ s.toList) :
    Takes (readValue? (depth + 1)) ('"' :: s.toList ++ ['"']) (.text s) := by
  intro rest hrest
  have hstring := takes_readString? hquote hescape rest hrest
  simp only [List.cons_append] at hstring
  simp only [List.cons_append, readValue?, skip_cons_of_not (c := '"') rfl, hstring]
  rfl

theorem isBlank_of_isPart {c : Char} (hc : Decimal.isPart c = true) : isBlank c = false := by
  refine Bool.eq_false_iff.mpr fun hblank => ?_
  simp only [isBlank, Bool.or_eq_true, beq_iff_eq, or_assoc] at hblank
  rcases hblank with rfl | rfl | rfl | rfl <;> cases hc

theorem takes_int (n : Int) : Takes (readValue? (depth + 1)) (toString n).toList (.int n) := by
  intro rest hrest
  have hint := takes_readInt? n rest hrest
  obtain ⟨c, text, htext, hc⟩ := Decimal.exists_toString_eq_cons n
  rw [htext, List.cons_append] at hint ⊢
  rw [readValue?, skip_cons_of_not (isBlank_of_isPart hc)]
  -- Nothing but a number starts with a part of a number.
  split
  case h_5 =>
    rw [hint]
    rfl
  all_goals
    rename_i heq
    obtain ⟨rfl, -⟩ := List.cons.inj heq
    cases hc

theorem takes_list {entries : List (List Char × Value)}
    (hitems : ∀ e ∈ entries, Takes (readValue? depth) e.1 e.2)
    (hstart : ∀ e ∈ entries, ∃ c text, e.1 = c :: text ∧ isBlank c = false ∧ c ≠ ']') :
    Takes (readValue? (depth + 1)) ('[' :: joined (entries.map (·.1)) ++ [']'])
      (.list (entries.map (·.2))) := by
  intro rest _
  have hgroup := readGroup?_joined (readValue?_blank depth) (.inl rfl) hitems hstart rest
  simp only [List.cons_append, List.append_assoc, List.nil_append, readValue?,
    skip_cons_of_not (c := '[') rfl, hgroup]
  rfl

/-- A key in quotes, a colon and the text of a value. -/
def fieldText (key : String) (text : List Char) : List Char :=
  '"' :: key.toList ++ '"' :: ':' :: ' ' :: text

theorem takes_field {key : String} {text : List Char} {v : Value}
    (hquote : '"' ∉ key.toList) (hescape : '\\' ∉ key.toList)
    (hvalue : Takes (readValue? depth) text v) :
    Takes (readField? (readValue? depth)) (fieldText key text) (key, v) := by
  intro rest hrest
  have hcolon : Decimal.isPart ':' = false := rfl
  have hkey := (takes_readString? hquote hescape).before hcolon (' ' :: (text ++ rest))
  have htext : fieldText key text ++ rest =
      '"' :: key.toList ++ ['"'] ++ ':' :: ' ' :: (text ++ rest) := by
    simp [fieldText]
  rw [htext]
  simp only [List.cons_append] at hkey ⊢
  simp only [readField?, skip_cons_of_not (c := '"') rfl, hkey, skip_cons_of_not (c := ':') rfl,
    readValue?_blank, hvalue rest hrest]
  rfl

theorem takes_table {entries : List (List Char × String × Value)}
    (hfields : ∀ e ∈ entries, Takes (readField? (readValue? depth)) e.1 e.2)
    (hstart : ∀ e ∈ entries, ∃ text, e.1 = '"' :: text) :
    Takes (readValue? (depth + 1)) ('\x7b' :: joined (entries.map (·.1)) ++ ['\x7d'])
      (.table (entries.map (·.2))) := by
  intro rest _
  have hgroup := readGroup?_joined (readField?_blank (readValue? depth)) (.inr rfl) hfields
    (fun e he => (hstart e he).elim fun text ht => ⟨'"', text, ht, rfl, by decide⟩) rest
  simp only [List.cons_append, List.append_assoc, List.nil_append, readValue?,
    skip_cons_of_not (c := '\x7b') rfl, hgroup]
  rfl

end Values

end Json

end Foldline
