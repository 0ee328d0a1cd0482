import Foldline.Proofs.Settings
import Foldline.Proofs.Utf8
import Foldline.Source.Read

/-! # Reading a file and taking its text apart

A file is decoded, its line ends are written as LF, and the text is cut into lines that are
measured. Cutting knows all three line ends, so that writing them as one beforehand makes no
difference: a file that holds the encoding of a text gives the lines of that text, unless one of
them is too long. -/

namespace Foldline

namespace Document

variable {d : Document} {limit : Int} {number : Nat}

theorem piecesFrom_unifyLineEnds (piece : Line) (text : List Char) :
    piecesFrom piece (unifyLineEnds text) = piecesFrom piece text := by
  fun_induction unifyLineEnds text generalizing piece with
  | case1 => rfl
  | case2 rest ih => simp [piecesFrom, ih]
  | case3 rest hlone ih =>
      -- A CR that no LF follows ends a line by itself.
      have hcut : piecesFrom piece ('\r' :: rest) = piece.reverse :: piecesFrom [] rest := by
        rw [piecesFrom]
        exact hlone
      rw [hcut, piecesFrom, ih]
  | case4 c rest _ hreturn ih =>
      by_cases hfeed : c = '\n'
      · subst hfeed
        rw [piecesFrom, piecesFrom, ih]
      · rw [piecesFrom, piecesFrom, ih] <;> simp_all

/-- Writing every line end as LF does not change the lines of a text. -/
theorem ofText_unifyLineEnds (text : List Char) : ofText (unifyLineEnds text) = ofText text := by
  rw [ofText, piecesFrom_unifyLineEnds, ofText]

/-- The line with this number, counted from one, is the first that is longer than a limit. -/
def IsFirstLong (d : Document) (limit : Int) (number : Nat) : Prop :=
  ∃ i line, number = i + 1 ∧ d.lines[i]? = some line ∧ limit < line.length ∧
    ∀ j < i, ∀ earlier : Line, d.lines[j]? = some earlier → (earlier.length : Int) ≤ limit

theorem firstLongLine?_eq_some_iff :
    d.firstLongLine? limit = some number ↔ d.IsFirstLong limit number := by
  simp only [firstLongLine?, Option.map_eq_some_iff, List.findIdx?_eq_some_iff_getElem,
    decide_eq_true_eq, IsFirstLong]
  constructor
  · rintro ⟨i, ⟨hi, hlong, hshort⟩, rfl⟩
    refine ⟨i, d.lines[i], rfl, List.getElem?_eq_getElem hi, hlong, ?_⟩
    intro j hj earlier hearlier
    obtain ⟨hlt, rfl⟩ := List.getElem?_eq_some_iff.mp hearlier
    exact Int.not_lt.mp (hshort j hj)
  · rintro ⟨i, line, rfl, hline, hlong, hshort⟩
    obtain ⟨hi, rfl⟩ := List.getElem?_eq_some_iff.mp hline
    refine ⟨i, ⟨hi, hlong, ?_⟩, rfl⟩
    intro j hj
    exact Int.not_lt.mpr (hshort j hj _ (List.getElem?_eq_getElem (Nat.lt_trans hj hi)))

theorem firstLongLine?_eq_none_iff :
    d.firstLongLine? limit = none ↔ ∀ line ∈ d.lines, (line.length : Int) ≤ limit := by
  simp [firstLongLine?, List.findIdx?_eq_none_iff]

end Document

/-- Settings that pass the check give a positive number as the limit on the length of lines. -/
theorem Config.maxLineLength_of_check {c : Config} (h : c.check = .ok ()) :
    ∃ n, 0 < n ∧ c.maxLineLength = .int n :=
  (check_eq_ok_iff.mp h).maxLineLength

namespace Source

variable {h : Host} {p : Path} {config : Config} {limit : Option LineLimit}

variable (h p) in
/-- A regular file with these bytes can be read at a path. -/
structure HoldsFile (bytes : List UInt8) : Prop where
  noNul : hasNul p = false
  target : h.target p.text = .ok (.file bytes)

/-- A file that holds the encoding of a text gives the text with every line end as LF. -/
theorem readText_of_holdsFile {text : List Char} (hf : HoldsFile h p (Text.Utf8.encode text)) :
    readText h p = .ok (Document.unifyLineEnds text) := by
  simp [readText, hf.noNul, Host.readBytes, hf.target, Text.Utf8.decode_encode]

/-- Under settings that pass the check and a positive limit, a readable file gives its lines unless
one of them is too long. -/
theorem readDocument_of_readText {text : List Char} {n : Int} (hcheck : config.check = .ok ())
    (hn : config.maxLineLength = .int n) (hpos : 0 < (limit.getD (.count n)).value)
    (htext : readText h p = .ok text) :
    readDocument h p config limit =
      match (Document.ofText text).firstLongLine? (limit.getD (.count n)).value with
      | some line => .error (.lineTooLong p line (limit.getD (.count n)))
      | none => .ok (Document.ofText text) := by
  have hlimit : ¬ (limit.getD (.count n)).value ≤ 0 := Int.not_le.mpr hpos
  rw [Config.check] at hcheck
  simp only [readDocument, readDocumentWithin, hcheck, htext, hn, LineLimit.ofSetting,
    Stages.mapError_ok, hlimit]
  rfl

/-- If a file can be read that holds the encoding of a text, its document is that of the text when
no line is longer than the limit that counts, which is the one given or else that of the settings.
Otherwise the message names the first line that is longer, and the limit. Writing the line ends as
LF on the way leaves the document as it is. -/
theorem readDocument_of_holdsFile {text : List Char} (hf : HoldsFile h p (Text.Utf8.encode text))
    (hcheck : config.check = .ok ()) (limit : Option LineLimit)
    (hlimit : ∀ l ∈ limit, 0 < l.value) :
    ∃ n, config.maxLineLength = .int n ∧ ∃ l : LineLimit, l = limit.getD (.count n) ∧
      ((∀ line ∈ (Document.ofText text).lines, (line.length : Int) ≤ l.value) →
        readDocument h p config limit = .ok (Document.ofText text)) ∧
      ((∃ line ∈ (Document.ofText text).lines, l.value < (line.length : Int)) →
        ∃ number, (Document.ofText text).IsFirstLong l.value number ∧
          readDocument h p config limit = .error (.lineTooLong p number l)) ∧
      (∀ k, (ReadError.lineTooLong p k l).message =
        s!"{p.toString} contains a line at line {k} exceeding the maximum allowed length of " ++
          s!"{l.text} characters.") ∧
      Document.ofText (Document.unifyLineEnds text) = Document.ofText text := by
  obtain ⟨n, hpos, hn⟩ := Config.maxLineLength_of_check hcheck
  have hl : 0 < (limit.getD (.count n)).value := by
    cases limit with
    | none => exact hpos
    | some l => exact hlimit l rfl
  have hread := readDocument_of_readText hcheck hn hl (readText_of_holdsFile hf)
  rw [Document.ofText_unifyLineEnds] at hread
  refine ⟨n, hn, _, rfl, ?_, ?_, fun _ => rfl, Document.ofText_unifyLineEnds text⟩
  · intro hshort
    rw [hread, Document.firstLongLine?_eq_none_iff.mpr hshort]
  · rintro ⟨line, hline, hlong⟩
    cases hfirst : (Document.ofText text).firstLongLine? (limit.getD (.count n)).value with
    | none =>
        have hshort := Document.firstLongLine?_eq_none_iff.mp hfirst line hline
        omega
    | some number =>
        rw [hfirst] at hread
        exact ⟨number, Document.firstLongLine?_eq_some_iff.mp hfirst, hread⟩

/-- A text with all three line ends and an empty line. -/
def mixedEnds : List Char := "ab\r\ncdé\r\r\nf\n".toList

def mixedEndsFile : Path := .absolute ["a.ts".toList]

/-- A host with a file that holds this text. -/
def mixedEndsHost : Host where
  tree := ⟨[(mixedEndsFile.names, .file (Text.Utf8.encode mixedEnds))]⟩
  current := []

theorem readDocument_of_holdsFile_mixedEnds :
    HoldsFile mixedEndsHost mixedEndsFile (Text.Utf8.encode mixedEnds) ∧
      ({} : Config).check = .ok () ∧
      readDocument mixedEndsHost mixedEndsFile {} none =
        .ok ⟨["ab", "cdé", "", "f"].map String.toList⟩ ∧
      readDocument mixedEndsHost mixedEndsFile {} (some (.count 2)) =
        .error (.lineTooLong mixedEndsFile 2 (.count 2)) := by
  have hf : HoldsFile mixedEndsHost mixedEndsFile (Text.Utf8.encode mixedEnds) :=
    ⟨by decide, Stages.eq_ok_of_toOption (by decide +kernel)⟩
  have hcheck : ({} : Config).check = .ok () := Stages.eq_ok_of_toOption (by decide +kernel)
  have hlines : Document.ofText mixedEnds = ⟨["ab", "cdé", "", "f"].map String.toList⟩ := by
    decide +kernel
  refine ⟨hf, hcheck, ?_, ?_⟩
  · obtain ⟨n, hn, l, rfl, hshort, -⟩ := readDocument_of_holdsFile hf hcheck none (by simp)
    obtain rfl := Value.int.inj hn
    rw [← hlines]
    exact hshort (by rw [hlines]; decide +kernel)
  · obtain ⟨n, hn, l, rfl, -, hlong, -⟩ :=
      readDocument_of_holdsFile hf hcheck (some (.count 2)) (by decide)
    obtain rfl := Value.int.inj hn
    obtain ⟨number, hfirst, hread⟩ := hlong (by rw [hlines]; decide +kernel)
    have hnumber : some number = some 2 := by
      rw [← Document.firstLongLine?_eq_some_iff.mpr hfirst]
      decide +kernel
    rw [hread, Option.some.inj hnumber]
    rfl

end Source

end Foldline
