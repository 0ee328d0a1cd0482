import Foldline.Proofs.Accepted
import Foldline.Proofs.Printed
import Foldline.Proofs.Reading
import Foldline.Proofs.Requests
import Mathlib.Tactic.SplitIfs

/-! # What a run of the command leaves behind

A run either has an answer and prints it, or it prints nothing and its exit code is not zero. An
answer comes from the file that is accepted, under the settings that are found from where this file
is, within the limits on sizes and lines. The format decides on nothing but how the answer is
written.

## Implementation notes

The path of the file is resolved twice: strictly to accept the file, and leniently to look for its
settings. The two agree wherever the strict one succeeds. -/

namespace Foldline

namespace Source

variable {h : Host} {p : Path} {c : Config} {d : Document}

theorem checkSize_eq_ok_iff {limit : Int} :
    checkSize h p limit = .ok () ↔ hasNul p = false ∧
      ∃ bytes, h.target p.text = .ok (.file bytes) ∧ (bytes.length : Int) ≤ limit := by
  unfold checkSize
  cases hnul : hasNul p with
  | true => simp
  | false =>
      cases htarget : h.target p.text with
      | error fault => simp
      | ok node =>
          cases node with
          | file bytes =>
              by_cases hsize : limit < bytes.length
              · simp [hsize]
              · simp [hsize, Int.not_lt.mp hsize]
          | directory => simp
          | link target => simp

/-- A document that was read has no line longer than the limit of the settings. -/
theorem readDocument_eq_ok (hd : readDocument h p c none = .ok d) :
    hasNul p = false ∧ ∃ n, c.maxLineLength = .int n ∧
      ∀ line ∈ d.lines, (line.length : Int) ≤ n := by
  obtain ⟨hcheck, -⟩ := Stages.seq_eq_ok_iff.mp hd
  have hcheck := Stages.mapError_eq_ok_iff.mp hcheck
  obtain ⟨n, hpos, hn⟩ := Config.maxLineLength_of_check hcheck
  cases htext : readText h p with
  | error e =>
      simp [readDocument, readDocumentWithin, hcheck, htext, hn, LineLimit.ofSetting,
        LineLimit.value, Int.not_le.mpr hpos] at hd
      cases hd
  | ok text =>
      have hlimit : 0 < ((none : Option LineLimit).getD (.count n)).value := hpos
      have hread := readDocument_of_readText hcheck hn hlimit htext
      rw [hd] at hread
      split at hread
      · cases hread
      · rename_i hshort
        cases hread
        refine ⟨?_, n, hn, Document.firstLongLine?_eq_none_iff.mp hshort⟩
        unfold readText at htext
        split at htext
        · cases htext
        · rename_i hnul
          exact Bool.eq_false_iff.mpr hnul

end Source

namespace Intent

/-- Whether planning is watched makes no difference to a plan that succeeds when watched. -/
theorem plan_outcome_of_watched {i : Intent} {d : Document} {config : Config}
    {request : Option Request} (hplan : (i.plan (some d) config true).outcome = .ok request)
    (watched : Bool) : (i.plan (some d) config watched).outcome = .ok request := by
  by_cases hi : i = .foldNames
  · subst hi
    obtain ⟨rs, hrs, hrequest⟩ := Stages.map_eq_ok_iff.mp hplan
    obtain ⟨hkinds, rfl, -⟩ := Document.survey_of_ok hrs
    cases watched with
    | true => exact hplan
    | false =>
        have hregions := Document.survey_regions hkinds (fun hw : false = true => by cases hw)
        simp only [plan, if_true, hregions]
        exact congrArg Except.ok hrequest
  · rw [plan_outcome_of_ne hi] at hplan ⊢
    exact hplan

end Intent

namespace Command

section

variable {h : Host} {i : Invocation} {p : Path} {c : Config} {d : Document}
  {request : Option Request}

/-- The settings of a file are looked for where the file is accepted. -/
theorem settingsStart_of_accept {file : String} {suffixes : Value}
    (hp : Source.accept h file.toList suffixes = .ok p) : settingsStart h file = .ok p.parent := by
  obtain ⟨path, bytes, _, hpath, hresolve, htarget, -⟩ := Source.accept_eq_ok_iff.mp hp
  have hlenient := Host.resolve_lenient hresolve (by simp [htarget])
  simp only [settingsStart, hpath, hlenient]
  rfl

variable (h i p c d) in
/-- An invocation gives these settings and this document: its file is accepted at a path, the
settings are those found from there with the overrides, the file is within the limit on sizes,
which the environment or the settings set, and the document is that of the file. -/
structure Prepares : Prop where
  accepted : Source.accept h i.file.toList c.extensions = .ok p
  settings : Config.build h p.parent [("marker_tokens", .texts i.markers),
    ("max_line_length", (i.maxLineLength.map Value.int).getD .null)] = .ok c
  size : ∃ bytes n limit, h.target p.text = .ok (.file bytes) ∧ c.maxFileSize = .int n ∧
    Source.sizeLimit h n = .ok limit ∧ (bytes.length : Int) ≤ limit
  document : Source.readDocument h p c none = .ok d

theorem Prepares.of_prepare (hprepare : prepare h i = .ok (c, d)) : ∃ p, Prepares h i p c d := by
  simp only [prepare, Command.settings, source, Stages.bind_eq_ok_iff, Stages.mapError_eq_ok_iff]
    at hprepare
  obtain ⟨c, ⟨start, hstart, hbuild⟩, d, ⟨p, haccept, limit, hlimit, _, hsize, hread⟩, hpair⟩ :=
    hprepare
  cases hpair
  rw [settingsStart_of_accept haccept] at hstart
  cases hstart
  obtain ⟨-, bytes, htarget, hle⟩ := Source.checkSize_eq_ok_iff.mp hsize
  obtain ⟨hnormal, hcheck⟩ := Config.build_eq_ok hbuild
  obtain ⟨n, -, hn⟩ := (hnormal ▸ Config.check_eq_ok_iff.mp hcheck).maxFileSize
  rw [defaultSizeLimit, hn] at hlimit
  exact ⟨p, haccept, hbuild, ⟨bytes, n, limit, htarget, hn, hlimit, hle⟩, hread⟩

theorem Prepares.prepare_eq (hi : Prepares h i p c d) : prepare h i = .ok (c, d) := by
  obtain ⟨bytes, n, limit, htarget, hn, hlimit, hle⟩ := hi.size
  have hnul := (Source.readDocument_eq_ok hi.document).1
  have hsize := Source.checkSize_eq_ok_iff.mpr ⟨hnul, bytes, htarget, hle⟩
  have hdefault : defaultSizeLimit c = n := by rw [defaultSizeLimit, hn]
  simp only [prepare, Command.settings, source, Stages.bind_eq_ok_iff, Stages.mapError_eq_ok_iff]
  exact ⟨c, ⟨p.parent, settingsStart_of_accept hi.accepted, hi.settings⟩, d,
    ⟨p, hi.accepted, limit, hdefault ▸ hlimit, (), hsize, hi.document⟩, rfl⟩

variable (h i p c d request) in
/-- An invocation gives a request, or none, from its settings and its document. No line of the
document is longer than the settings allow, and the plan is the same watched or not. -/
structure Answers : Prop where
  prepares : Prepares h i p c d
  short : ∃ n, c.maxLineLength = .int n ∧ ∀ line ∈ d.lines, (line.length : Int) ≤ n
  planned : ∀ watched, (i.intent.plan (some d) c watched).outcome = .ok request

/-- An invocation with an answer prints it. -/
theorem Answers.carryOut_eq (hi : Answers h i p c d request) :
    carryOut h i =
      { exitCode := 0, out := render i.format i.intent request
        err := warningText (i.intent.plan (some d) c true).warnings } := by
  simp only [carryOut, hi.prepares.prepare_eq, hi.planned true]

/-- A request in an answer is about some lines. -/
theorem Answers.lines_ne_nil (hi : Answers h i p c d request) : ∀ r ∈ request, r.lines ≠ [] := by
  rintro r rfl
  obtain ⟨d, -, hlines⟩ := Intent.isLineSet_of_plan (hi.planned true)
  exact hlines.nonempty

/-- An answer does not depend on the format. -/
theorem Answers.withFormat (hi : Answers h i p c d request) (format : Format) :
    Answers h { i with format } p c d request :=
  ⟨⟨hi.prepares.accepted, hi.prepares.settings, hi.prepares.size, hi.prepares.document⟩, hi.short,
    hi.planned⟩

/-- Every way to stop early shows in the exit code and leaves nothing on the output. -/
theorem Stop.outcome_silent (stop : Stop) :
    stop.outcome.exitCode ≠ 0 ∧ stop.outcome.out = "" := by
  cases stop <;> simp [Stop.outcome]

/-- An invocation has an answer or prints nothing. -/
theorem answers_or_silent (h : Host) (i : Invocation) :
    (∃ p c d request, Answers h i p c d request) ∨
      (carryOut h i).exitCode ≠ 0 ∧ (carryOut h i).out = "" := by
  unfold carryOut
  split
  · rename_i stop _
    exact .inr stop.outcome_silent
  · rename_i c d hprepare
    dsimp only
    split
    · exact .inr ⟨by simp, rfl⟩
    · rename_i request hplan
      obtain ⟨p, hprepares⟩ := Prepares.of_prepare hprepare
      exact .inl ⟨p, c, d, request, hprepares, (Source.readDocument_eq_ok hprepares.document).2,
        Intent.plan_outcome_of_watched hplan⟩

/-- The format decides on nothing but the output. -/
theorem carryOut_format (h : Host) (i : Invocation) (format : Format) :
    (carryOut h { i with format }).exitCode = (carryOut h i).exitCode ∧
      (carryOut h { i with format }).err = (carryOut h i).err ∧
      (carryOut h { i with format }).failure = (carryOut h i).failure := by
  have hprepare : prepare h { i with format } = prepare h i := rfl
  unfold carryOut
  rw [hprepare]
  split
  · exact ⟨rfl, rfl, rfl⟩
  · dsimp only
    split
    · exact ⟨rfl, rfl, rfl⟩
    · exact ⟨rfl, rfl, rfl⟩

end

namespace Arguments

variable {a b : Arguments} {arguments : List String} {h : Host}

/-- Arguments that can be read, with values that their options can have, and that ask for neither
help nor the version. -/
structure Parses (arguments : List String) (a : Arguments) : Prop where
  read : Arguments.read arguments = .ok a
  plain : a.eager? = none
  values : a.checkValues = .ok ()

/-- What arguments ask for about a file. -/
def invocation (a : Arguments) (file : String) : Invocation :=
  { file, intent := a.intent, markers := a.markers, maxLineLength := a.maxLineLength?
    format := a.format }

/-- Arguments that ask for the same, with the format apart. -/
structure SameButFormat (a b : Arguments) : Prop where
  operands : b.operands = a.operands
  intent : b.intent = a.intent
  markers : b.markers = a.markers
  maxLineLength : b.maxLineLength? = a.maxLineLength?

/-- The one operand, if it leads to something that is no directory. -/
def namedFile (h : Host) : List String → Except Stop String
  | [] => .error (.usage .missingOperand)
  | file :: extra => do
      checkFile h file
      if !extra.isEmpty then .error (.usage (.extraOperands extra))
      return file

theorem namedFile_eq_ok_iff {operands : List String} {file : String} :
    namedFile h operands = .ok file ↔ operands = [file] ∧ checkFile h file = .ok () := by
  cases operands with
  | nil => simp [namedFile]
  | cons first extra =>
      simp only [namedFile]
      rw [Stages.seq_eq_ok_iff]
      cases extra with
      | nil =>
          constructor
          · rintro ⟨hfile, hok⟩
            cases hok
            exact ⟨rfl, hfile⟩
          · rintro ⟨hfirst, hfile⟩
            cases hfirst
            exact ⟨hfile, rfl⟩
      | cons second rest =>
          constructor
          · rintro ⟨-, hok⟩
            cases hok
          · rintro ⟨hfirst, -⟩
            cases hfirst

theorem Parses.run_eq (ha : Parses arguments a) :
    run h arguments =
      match namedFile h a.operands with
      | .error stop => stop.outcome
      | .ok file => carryOut h (a.invocation file) := by
  have hinterpret : interpret h a = (namedFile h a.operands).map a.invocation := by
    simp only [interpret, ha.values, Stages.mapError_ok]
    cases a.operands with
    | nil => rfl
    | cons file extra =>
        simp only [namedFile]
        cases checkFile h file with
        | error stop => rfl
        | ok _ => cases extra <;> rfl
  simp only [run, ha.read, ha.plain, hinterpret]
  cases namedFile h a.operands <;> rfl

/-- A run prints the answer, if there is one. -/
theorem Parses.run_of_answers {file : String} {p : Path} {c : Config} {d : Document}
    {request : Option Request} (ha : Parses arguments a) (hoperands : a.operands = [file])
    (hfile : checkFile h file = .ok ()) (hanswers : Answers h (a.invocation file) p c d request) :
    run h arguments =
      { exitCode := 0, out := render a.format a.intent request
        err := warningText (a.intent.plan (some d) c true).warnings } := by
  rw [ha.run_eq, namedFile_eq_ok_iff.mpr ⟨hoperands, hfile⟩]
  exact hanswers.carryOut_eq

theorem Parses.answers_or_silent (ha : Parses arguments a) (h : Host) :
    (∃ file p c d request, a.operands = [file] ∧ checkFile h file = .ok () ∧
        Answers h (a.invocation file) p c d request) ∨
      (run h arguments).exitCode ≠ 0 ∧ (run h arguments).out = "" := by
  rw [ha.run_eq]
  split
  · rename_i stop _
    exact .inr stop.outcome_silent
  · rename_i file hnamed
    obtain ⟨hoperands, hfile⟩ := namedFile_eq_ok_iff.mp hnamed
    refine (Command.answers_or_silent h (a.invocation file)).imp_left ?_
    rintro ⟨p, c, d, request, hanswers⟩
    exact ⟨file, p, c, d, request, hoperands, hfile, hanswers⟩

theorem Parses.exitCode_eq_zero_iff (ha : Parses arguments a) :
    (run h arguments).exitCode = 0 ↔ ∃ file p c d request, a.operands = [file] ∧
      checkFile h file = .ok () ∧ Answers h (a.invocation file) p c d request := by
  constructor
  · intro hcode
    rcases ha.answers_or_silent h with hanswers | hsilent
    · exact hanswers
    · exact absurd hcode hsilent.1
  · rintro ⟨file, p, c, d, request, hoperands, hfile, hanswers⟩
    rw [ha.run_of_answers hoperands hfile hanswers]

theorem Parses.out_of_exitCode_ne_zero (ha : Parses arguments a)
    (hcode : (run h arguments).exitCode ≠ 0) : (run h arguments).out = "" := by
  rcases ha.answers_or_silent h with hanswers | hsilent
  · exact absurd (ha.exitCode_eq_zero_iff.mpr hanswers) hcode
  · exact hsilent.2

theorem SameButFormat.invocation_eq (hab : SameButFormat a b) (file : String) :
    b.invocation file = { a.invocation file with format := b.format } := by
  rw [invocation, hab.intent, hab.markers, hab.maxLineLength]
  rfl

/-- With another format a run ends in the same way. -/
theorem SameButFormat.run_same {others : List String} (hab : SameButFormat a b)
    (ha : Parses arguments a) (hb : Parses others b) :
    (run h others).exitCode = (run h arguments).exitCode ∧
      (run h others).err = (run h arguments).err ∧
      (run h others).failure = (run h arguments).failure := by
  rw [ha.run_eq, hb.run_eq, hab.operands]
  cases namedFile h a.operands with
  | error stop => exact ⟨rfl, rfl, rfl⟩
  | ok file =>
      simp only [hab.invocation_eq]
      exact carryOut_format h (a.invocation file) b.format

end Arguments

open Arguments (Parses SameButFormat)

/-- Arguments that ask for a plan lead to an exit code of zero exactly when they name one file,
there is something at the path as it is written, and there is an answer for the file. Then the
answer is printed: a line of text, or an object with four fields. Otherwise nothing is printed.
With the other format all is the same but for the output, and the lines that can be read from the
two outputs are the same. -/
theorem run_answers {arguments : List String} {a : Arguments} (h : Host)
    (ha : Parses arguments a) :
    ((run h arguments).exitCode ≠ 0 → (run h arguments).out = "") ∧
      ((run h arguments).exitCode = 0 ↔ ∃ file p c d request, a.operands = [file] ∧
        checkFile h file = .ok () ∧ Answers h (a.invocation file) p c d request) ∧
      (∀ file p c d request, a.operands = [file] → checkFile h file = .ok () →
        Answers h (a.invocation file) p c d request →
          (run h arguments).out = render a.format a.intent request ∧
          (a.format = .text → readLine? (run h arguments).out.toList =
            some (request.map fun r => (r.action.name, (r.depth : Int), r.lines))) ∧
          (a.format = .json →
            Json.read? (run h arguments).out.toList = some (fields a.intent request))) ∧
      ∀ others b, Parses others b → SameButFormat a b →
        (run h others).exitCode = (run h arguments).exitCode ∧
        (run h others).err = (run h arguments).err ∧
        (run h others).failure = (run h arguments).failure ∧
        ((run h arguments).exitCode = 0 →
          ∃ lines, printedLines? a.format (run h arguments).out = some lines ∧
            printedLines? b.format (run h others).out = some lines) := by
  refine ⟨ha.out_of_exitCode_ne_zero, ha.exitCode_eq_zero_iff, ?_, ?_⟩
  · intro file p c d request hoperands hfile hanswers
    rw [ha.run_of_answers hoperands hfile hanswers]
    refine ⟨rfl, ?_, ?_⟩
    · intro hformat
      simp only [hformat, render]
      exact readLine?_renderText hanswers.lines_ne_nil
    · intro hformat
      simp only [hformat, render]
      exact read?_renderJson a.intent request
  · intro others b hb hab
    obtain ⟨hcode, herr, hfailure⟩ := hab.run_same (h := h) ha hb
    refine ⟨hcode, herr, hfailure, ?_⟩
    intro hzero
    obtain ⟨file, p, c, d, request, hoperands, hfile, hanswers⟩ := ha.exitCode_eq_zero_iff.mp hzero
    have hother : Answers h (b.invocation file) p c d request := by
      rw [hab.invocation_eq]
      exact hanswers.withFormat b.format
    refine ⟨linesOf request, ?_, ?_⟩
    · rw [ha.run_of_answers hoperands hfile hanswers]
      exact printedLines?_render a.format a.intent hanswers.lines_ne_nil
    · rw [hb.run_of_answers (hab.operands.trans hoperands) hfile hother]
      exact printedLines?_render b.format b.intent hanswers.lines_ne_nil

/-- A host with one source file, that a link in another directory leads to. -/
def linkedBlock : Host where
  tree := ⟨[(["a.ts".toList],
      .file "const s = stylex.create(\x7b\n  a: \x7b\n    b: 1,\n  \x7d,\n\x7d);\n".toUTF8.toList),
    (["d".toList], .directory),
    (["d".toList, "link".toList], .link "../a.ts".toList)]⟩
  current := ["d".toList]

theorem run_answers_linkedBlock :
    Parses ["link"] ⟨[], ["link"]⟩ ∧
      Parses ["--format", "json", "link"] ⟨[(.format, "json")], ["link"]⟩ ∧
      Parses ["--max-line-length=9", "link"] ⟨[(.maxLineLength, "9")], ["link"]⟩ ∧
      (run linkedBlock ["link"]).exitCode = 0 ∧
      (run linkedBlock ["--format", "json", "link"]).err = (run linkedBlock ["link"]).err ∧
      (∃ lines, printedLines? .text (run linkedBlock ["link"]).out = some lines ∧
        printedLines? .json (run linkedBlock ["--format", "json", "link"]).out = some lines) ∧
      (run linkedBlock ["--max-line-length=9", "link"]).out = "" := by
  have htext : Parses ["link"] ⟨[], ["link"]⟩ :=
    ⟨by decide +kernel, by decide +kernel, by decide +kernel⟩
  have hjson : Parses ["--format", "json", "link"] ⟨[(.format, "json")], ["link"]⟩ :=
    ⟨by decide +kernel, by decide +kernel, by decide +kernel⟩
  have hshort : Parses ["--max-line-length=9", "link"] ⟨[(.maxLineLength, "9")], ["link"]⟩ :=
    ⟨by decide +kernel, by decide +kernel, by decide +kernel⟩
  have hcode : (run linkedBlock ["link"]).exitCode = 0 := by decide +kernel
  obtain ⟨-, -, -, hother⟩ := run_answers linkedBlock htext
  obtain ⟨-, herr, -, hlines⟩ := hother _ _ hjson
    ⟨rfl, by decide +kernel, by decide +kernel, by decide +kernel⟩
  exact ⟨htext, hjson, hshort, hcode, herr, hlines hcode,
    (run_answers linkedBlock hshort).1 (by decide +kernel)⟩

end Command

end Foldline
