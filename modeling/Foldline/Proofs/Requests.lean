import Foldline.Intent
import Foldline.Proofs.MarkerLines
import Foldline.Proofs.Watching

/-! # The lines of requests

A request is about marker lines or about the key lines of all blocks. Either way its lines ascend
and are lines of the document, and a session hands on to the editor exactly the requests that it
applies. Each key line to fold is inside the block of a marker line, so that the intents about
blocks reach whatever the intent about names folds. -/

namespace Foldline

namespace Document

variable {config : Config} {d : Document}

variable (d) in
/-- Lines that an editor can act on: at least one, ascending, and all of them in the document. -/
structure IsLineSet (lines : List Int) : Prop where
  nonempty : lines ≠ []
  ascending : lines.Pairwise (· < ·)
  inside : ∀ line ∈ lines, 0 ≤ line ∧ line < d.lineCount

/-- Marker lines ascend within the document. -/
theorem isLineSet_markerLines {lines : List Int} (h : d.markerLines config = .ok lines)
    (hne : lines ≠ []) : d.IsLineSet lines := by
  obtain rfl := markerLines_of_ok h
  refine ⟨hne, ?_, ?_⟩
  · rw [List.pairwise_map]
    exact (pairwise_linesWhere _ d).imp Int.ofNat_lt.mpr
  · intro line hline
    obtain ⟨i, hi, rfl⟩ := List.mem_map.mp hline
    obtain ⟨text, htext, -⟩ := mem_linesWhere.mp hi
    exact ⟨Int.natCast_nonneg i, Int.ofNat_lt.mpr (List.getElem?_eq_some_iff.mp htext).1⟩

/-- The key lines of all blocks ascend within the document. -/
theorem isLineSet_keyLines (hne : (d.outline config).flatMap (·.keyLines) ≠ []) :
    d.IsLineSet ((d.outline config).flatMap (·.keyLines)) := by
  refine ⟨hne, pairwise_keyLines_outline config d, ?_⟩
  intro line hline
  obtain ⟨r, hr, hmem⟩ := List.mem_flatMap.mp hline
  obtain ⟨hstart, hstop, hend⟩ := bounds_of_mem_keyLines hr hmem
  obtain ⟨s, -, -, rfl⟩ := mem_outline.mp hr
  have hnonneg : 0 ≤ (d.blockAt config s).start := Int.natCast_nonneg s
  exact ⟨by omega, by omega⟩

end Document

namespace Intent

variable {i : Intent} {config : Config} {d : Document} {watched : Bool}

/-- There is a request for some lines exactly when there are any. -/
theorem request?_eq_some_iff {lines : List Int} {r : Request} :
    i.request? lines = some r ↔ lines ≠ [] ∧ r = ⟨i, i.action, i.depth, lines⟩ := by
  cases lines with
  | nil => simp [request?]
  | cons line rest => simp [request?, @eq_comm _ r]

/-- The request to fold names is about the key lines of all blocks. -/
theorem plan_foldNames_eq_some {r : Request}
    (h : (plan .foldNames (some d) config watched).outcome = .ok (some r)) :
    r.lines = (d.outline config).flatMap (·.keyLines) ∧ r.lines ≠ [] := by
  obtain ⟨rs, hrs, hrequest⟩ := Stages.map_eq_ok_iff.mp h
  obtain ⟨-, rfl, -⟩ := Document.survey_of_ok hrs
  obtain ⟨hne, rfl⟩ := request?_eq_some_iff.mp hrequest
  exact ⟨rfl, hne⟩

/-- The plan of any other intent asks for the marker lines. -/
theorem plan_outcome_of_ne (hi : i ≠ .foldNames) :
    (i.plan (some d) config watched).outcome = (d.markerLines config).map i.request? := by
  simp [plan, hi]

/-- Every request that is planned is about a set of lines of the document. -/
theorem isLineSet_of_plan {document : Option Document} {r : Request}
    (h : (i.plan document config watched).outcome = .ok (some r)) :
    ∃ d, document = some d ∧ d.IsLineSet r.lines := by
  cases document with
  | none => cases h
  | some d =>
      refine ⟨d, rfl, ?_⟩
      by_cases hi : i = .foldNames
      · subst hi
        obtain ⟨hlines, hne⟩ := plan_foldNames_eq_some h
        rw [hlines] at hne ⊢
        exact Document.isLineSet_keyLines hne
      · rw [plan_outcome_of_ne hi] at h
        obtain ⟨lines, hlines, hrequest⟩ := Stages.map_eq_ok_iff.mp h
        obtain ⟨hne, rfl⟩ := request?_eq_some_iff.mp hrequest
        exact Document.isLineSet_markerLines hlines hne

end Intent

namespace Session

variable {document : Option Document} {config : Config}

/-- The request that a step plans, if it plans one. -/
def Step.request? (document : Option Document) (config : Config) (step : Step) : Option Request :=
  match (step.intent.plan document config step.watched).outcome with
  | .ok request => request
  | .error _ => none

theorem Step.request?_eq_some_iff {step : Step} {r : Request} :
    step.request? document config = some r ↔
      (step.intent.plan document config step.watched).outcome = .ok (some r) := by
  rw [Step.request?]
  cases (step.intent.plan document config step.watched).outcome <;> simp

/-- One step adds the call for its request if it applies it, and else no call. -/
theorem calls_advance (s : Session) (step : Step) :
    (s.advance document config step).1.calls =
      s.calls ++ if step.applied then ((step.request? document config).map Request.call).toList
        else [] := by
  simp only [advance, Step.request?]
  cases (step.intent.plan document config step.watched).outcome with
  | error e => simp [callsOf]
  | ok request =>
      cases request with
      | none => simp [callsOf]
      | some r => simp [callsOf]

/-- A run adds the calls for the requests of the steps that are applied, in order. -/
theorem calls_runSteps_from (document : Option Document) (config : Config) (s : Session)
    (steps : List Step) :
    (runSteps document config s steps).calls =
      s.calls ++ ((steps.filter (·.applied)).filterMap (Step.request? document config)).map
        Request.call := by
  induction steps generalizing s with
  | nil => simp [runSteps]
  | cons step rest ih =>
      rw [runSteps, ih, calls_advance, List.append_assoc]
      congr 1
      by_cases happlied : step.applied = true
      · cases hr : step.request? document config with
        | none => simp [happlied, hr]
        | some r => simp [happlied, hr]
      · simp [happlied]

/-- The calls of a session are exactly those for the requests of the steps that are applied, in the
order of the steps, with the action, the lines and the depth of each request. The lines of every
request and of every call are some lines of the document, in ascending order. -/
theorem calls_runSteps (document : Option Document) (config : Config) (steps : List Step) :
    (runSteps document config {} steps).calls =
        ((steps.filter (·.applied)).filterMap (Step.request? document config)).map
          (fun r => ⟨r.action, r.lines, r.depth⟩) ∧
      (∀ (i : Intent) (watched : Bool) (r : Request),
        (i.plan document config watched).outcome = .ok (some r) →
          ∃ d, document = some d ∧ d.IsLineSet r.lines) ∧
      ∀ call ∈ (runSteps document config {} steps).calls,
        ∃ d, document = some d ∧ d.IsLineSet call.lines := by
  have hcalls := calls_runSteps_from document config {} steps
  rw [List.nil_append] at hcalls
  refine ⟨hcalls, fun i watched r h => Intent.isLineSet_of_plan h, ?_⟩
  intro call hcall
  rw [hcalls] at hcall
  obtain ⟨r, hr, rfl⟩ := List.mem_map.mp hcall
  obtain ⟨step, -, hrequest⟩ := List.mem_filterMap.mp hr
  exact Intent.isLineSet_of_plan (Step.request?_eq_some_iff.mp hrequest)

/-- A session that plans each intent before it applies it. -/
def plannedFirst : List Step :=
  [⟨.foldNames, false, true⟩, ⟨.foldNames, true, true⟩, ⟨.unfoldAll, false, false⟩,
    ⟨.unfoldAll, true, false⟩]

/-- With a zero as prefixes the steps about names fail, and the others go on. -/
theorem calls_runSteps_twoBlocks :
    (runSteps (some Document.twoBlocks) {} {} plannedFirst).calls =
        [⟨.fold, [1, 5, 9], 1⟩, ⟨.unfold, [0, 7], 100⟩] ∧
      (runSteps (some Document.twoBlocks) { terminatorPrefixes := .int 0 } {} plannedFirst).calls =
        [⟨.unfold, [0, 7], 100⟩] ∧
      ∀ call ∈ (runSteps (some Document.twoBlocks) {} {} plannedFirst).calls,
        Document.twoBlocks.IsLineSet call.lines := by
  refine ⟨by decide +kernel, by decide +kernel, ?_⟩
  intro call hcall
  obtain ⟨d, hd, hlines⟩ :=
    (calls_runSteps (some Document.twoBlocks) {} plannedFirst).2.2 call hcall
  obtain rfl := Option.some.inj hd
  exact hlines

end Session

namespace Document

variable {config : Config} {d : Document}

/-- In a document with a key line the tokens can be looked for in every line. -/
theorem markerLines_of_key {k : Nat} (h : d.kindAt? config k = some .key) :
    d.markerLines config = .ok ((d.linesWhere (Line.findsMarker config)).map Int.ofNat) := by
  obtain ⟨key, -, hkind⟩ := kindAt?_eq_some_iff.mp h
  apply markerLines_eq_ok
  intro line _
  apply Line.isMarker_eq_findsMarker
  exact Line.exists_isMarker_of_eq_false (Line.isMarker_of_kind_key hkind) line

theorem mem_linesWhere_of_marker {m : Nat} (h : d.kindAt? config m = some .marker) :
    m ∈ d.linesWhere (Line.findsMarker config) := by
  obtain ⟨line, hl, hkind⟩ := kindAt?_eq_some_iff.mp h
  have hmarker := (Line.kind_eq_marker_iff.mp hkind).2
  exact mem_linesWhere.mpr ⟨line, hl, by simp [Line.findsMarker, hmarker, Except.toOption]⟩

theorem notMem_linesWhere_of_key {k : Nat} (h : d.kindAt? config k = some .key) :
    k ∉ d.linesWhere (Line.findsMarker config) := by
  intro hmem
  obtain ⟨line, hl, hkind⟩ := kindAt?_eq_some_iff.mp h
  obtain ⟨other, hother, hfinds⟩ := mem_linesWhere.mp hmem
  obtain rfl := Option.some.inj (hl.symm.trans hother)
  simp [Line.findsMarker, Line.isMarker_of_kind_key hkind, Except.toOption] at hfinds

end Document

namespace Intent

variable {config : Config} {d : Document} {watched : Bool}

/-- Wherever names can be folded, the intents about blocks have something to act on as well. They
all name the same lines. Above each key line to fold, one of them is a marker further to the left,
with no line in between that would close its block, and no key line is one of them. -/
theorem plan_of_plan_foldNames {r : Request}
    (h : (plan .foldNames (some d) config watched).outcome = .ok (some r)) :
    ∃ lines, (∀ (i : Intent) (w : Bool), i ≠ .foldNames →
        (i.plan (some d) config w).outcome = .ok (some ⟨i, i.action, i.depth, lines⟩)) ∧
      ∀ line ∈ r.lines, line ∉ lines ∧ ∃ m k : Nat, line = k ∧ (m : Int) ∈ lines ∧ m < k ∧
        d.columnOf m < d.columnOf k ∧
        ∀ j, m < j → j < k → d.closesAt config (d.columnOf m) j = false := by
  obtain ⟨hlines, hne⟩ := plan_foldNames_eq_some h
  rw [hlines] at hne ⊢
  have hmem (n : Nat) : (n : Int) ∈ (d.linesWhere (Line.findsMarker config)).map Int.ofNat ↔
      n ∈ d.linesWhere (Line.findsMarker config) :=
    List.mem_map_of_injective fun _ _ => Int.ofNat.inj
  refine ⟨(d.linesWhere (Line.findsMarker config)).map Int.ofNat, ?_, ?_⟩
  · -- One key line is enough: it has a marker, and the marker lines can be told because of it.
    intro i w hi
    obtain ⟨line, hline⟩ := List.exists_mem_of_ne_nil _ hne
    obtain ⟨m, k, rfl, -, hmarker, hk⟩ := Document.mem_keyLines_outline.mp hline
    have hkey := (Document.topKey_reach hk).2.2.2
    rw [plan_outcome_of_ne hi, Document.markerLines_of_key hkey]
    apply congrArg Except.ok
    apply request?_eq_some_iff.mpr
    exact ⟨List.ne_nil_of_mem ((hmem m).mpr (Document.mem_linesWhere_of_marker hmarker)), rfl⟩
  · intro line hline
    obtain ⟨m, k, rfl, -, hmarker, hk⟩ := Document.mem_keyLines_outline.mp hline
    obtain ⟨hmk, hcolumn, hinside, hkey⟩ := Document.topKey_reach hk
    constructor
    · rw [hmem]
      exact Document.notMem_linesWhere_of_key hkey
    · exact ⟨m, k, rfl, (hmem m).mpr (Document.mem_linesWhere_of_marker hmarker), hmk, hcolumn,
        hinside⟩

theorem plan_of_plan_foldNames_twoBlocks :
    (plan .foldNames (some Document.twoBlocks) {} true).outcome =
        .ok (some ⟨.foldNames, .fold, 1, [1, 5, 9]⟩) ∧
      ∃ lines, (∀ (i : Intent) (w : Bool), i ≠ .foldNames →
          (i.plan (some Document.twoBlocks) {} w).outcome =
            .ok (some ⟨i, i.action, i.depth, lines⟩)) ∧
        ∀ line ∈ [1, 5, 9], line ∉ lines ∧ ∃ m k : Nat, line = k ∧ (m : Int) ∈ lines ∧ m < k ∧
          Document.twoBlocks.columnOf m < Document.twoBlocks.columnOf k ∧
          ∀ j, m < j → j < k →
            Document.twoBlocks.closesAt {} (Document.twoBlocks.columnOf m) j = false := by
  have hplan : (plan .foldNames (some Document.twoBlocks) {} true).outcome =
      .ok (some ⟨.foldNames, .fold, 1, [1, 5, 9]⟩) := Stages.eq_ok_of_toOption (by decide +kernel)
  exact ⟨hplan, plan_of_plan_foldNames hplan⟩

end Intent

end Foldline
