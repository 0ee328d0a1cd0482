import Foldline.Command.Run
import Foldline.Proofs.Json

/-! # What is printed about a request

A request is printed as a line of text or as an object. Either can be read back: the line says the
action, the depth and the lines, and the object has the intent besides. So the two formats tell of
the same lines. -/

namespace Foldline

namespace Command

/-- The lines of a request; none if there is no request. -/
def linesOf (request : Option Request) : List Int := (request.map (·.lines)).getD []

theorem toList_numberList (gap : String) (numbers : List Int) :
    (numberList gap numbers).toList =
      gap.toList.intercalate (numbers.map fun n => (toString n).toList) := by
  simp [numberList, Function.comp_def]

theorem takes_numbers (depth : Nat) (numbers : List Int) :
    Json.Takes (Json.readValue? (depth + 2)) ('[' :: (numberList ", " numbers).toList ++ [']'])
      (.list (numbers.map .int)) := by
  have hitems : ∀ e ∈ numbers.map fun n => ((toString n).toList, Value.int n),
      Json.Takes (Json.readValue? (depth + 1)) e.1 e.2 := by
    intro e he
    obtain ⟨n, -, rfl⟩ := List.mem_map.mp he
    exact Json.takes_int n
  have hstart : ∀ e ∈ numbers.map fun n => ((toString n).toList, Value.int n),
      ∃ c text, e.1 = c :: text ∧ Json.isBlank c = false ∧ c ≠ ']' := by
    intro e he
    obtain ⟨n, -, rfl⟩ := List.mem_map.mp he
    obtain ⟨c, text, htext, hc⟩ := Decimal.exists_toString_eq_cons n
    refine ⟨c, text, htext, Json.isBlank_of_isPart hc, ?_⟩
    rintro rfl
    cases hc
  simpa [toList_numberList, Json.joined, Function.comp_def] using Json.takes_list hitems hstart

/-- The printed action of a request. -/
def actionText (request : Option Request) : List Char :=
  (request.map fun r => '"' :: r.action.name.toList ++ ['"']).getD "null".toList

/-- The printed depth of a request. -/
def depthText (request : Option Request) : List Char :=
  (request.map fun r => (toString r.depth).toList).getD "null".toList

/-- A field of an object with its printed form. -/
def printedField (key : String) (text : List Char) (v : Value) : List Char × String × Value :=
  (Json.fieldText key text, key, v)

/-- The fields of the object about a request, with their printed forms. -/
def printedFields (intent : Intent) (request : Option Request) :
    List (List Char × String × Value) :=
  [printedField "intent" ('"' :: intent.name.toList ++ ['"']) (.text intent.name),
    printedField "action" (actionText request)
      ((request.map fun r => Value.text r.action.name).getD .null),
    printedField "depth" (depthText request) ((request.map fun r => Value.int r.depth).getD .null),
    printedField "lines" ('[' :: (numberList ", " (linesOf request)).toList ++ [']'])
      (.list ((linesOf request).map .int))]

theorem toList_renderJson (intent : Intent) (request : Option Request) :
    (renderJson intent request).toList =
      '\x7b' :: Json.joined ((printedFields intent request).map (·.1)) ++ ['\x7d'] ++ ['\n'] := by
  have hstring (s : String) : toString s = s := rfl
  -- The equation of `renderJson` would be slow to find, for the strings in it.
  delta renderJson
  cases request with
  | none =>
      simp [hstring, printedFields, printedField, Json.joined, Json.fieldText, actionText,
        depthText, linesOf, numberList, List.intercalate_cons_cons]
  | some r =>
      simp only [hstring, String.toList_append, printedFields, printedField, Json.joined,
        Json.fieldText, actionText, depthText, linesOf, List.map_cons, List.map_nil,
        List.intercalate_cons_cons, List.intercalate_singleton, Option.map_some,
        Option.getD_some, List.cons_append, List.nil_append, List.append_assoc]
      rfl

theorem takes_action (depth : Nat) (request : Option Request) :
    Json.Takes (Json.readValue? (depth + 1)) (actionText request)
      ((request.map fun r => Value.text r.action.name).getD .null) := by
  cases request with
  | none => exact Json.takes_null
  | some r =>
      apply Json.takes_text
      · cases r.action <;> decide
      · cases r.action <;> decide

theorem takes_depth (depth : Nat) (request : Option Request) :
    Json.Takes (Json.readValue? (depth + 1)) (depthText request)
      ((request.map fun r => Value.int r.depth).getD .null) := by
  cases request with
  | none => exact Json.takes_null
  | some r => exact Json.takes_int (r.depth : Int)

theorem takes_intent (depth : Nat) (intent : Intent) :
    Json.Takes (Json.readValue? (depth + 1)) ('"' :: intent.name.toList ++ ['"'])
      (.text intent.name) := by
  apply Json.takes_text
  · cases intent <;> decide
  · cases intent <;> decide

theorem takes_printedFields (depth : Nat) (intent : Intent) (request : Option Request) :
    ∀ e ∈ printedFields intent request,
      Json.Takes (Json.readField? (Json.readValue? (depth + 2))) e.1 e.2 := by
  simp only [printedFields, List.forall_mem_cons]
  exact ⟨Json.takes_field (by decide) (by decide) (takes_intent (depth + 1) intent),
    Json.takes_field (by decide) (by decide) (takes_action (depth + 1) request),
    Json.takes_field (by decide) (by decide) (takes_depth (depth + 1) request),
    Json.takes_field (by decide) (by decide) (takes_numbers depth (linesOf request)), by simp⟩

/-- What an object says about a request, or about the lack of one. -/
def fields (intent : Intent) (request : Option Request) : Value :=
  .table [("intent", .text intent.name),
    ("action", (request.map fun r => Value.text r.action.name).getD .null),
    ("depth", (request.map fun r => Value.int r.depth).getD .null),
    ("lines", .list ((linesOf request).map .int))]

/-- An object that is printed about a request has the four fields and nothing else. -/
theorem read?_renderJson (intent : Intent) (request : Option Request) :
    Json.read? (renderJson intent request).toList = some (fields intent request) := by
  have hstart : ∀ e ∈ printedFields intent request, ∃ text, e.1 = '"' :: text := by
    simp [printedFields, printedField, Json.fieldText]
  have hend : Decimal.isPart '\n' = false := rfl
  have hobject := (Json.takes_table (takes_printedFields 997 intent request) hstart).before hend []
  rw [toList_renderJson, Json.read?, Json.maxDepth, hobject]
  rfl

/-- What a line of text says about a request: the action, the depth and the lines. Without a line
there is no request. -/
def readLine? (out : List Char) : Option (Option (String × Int × List Int)) :=
  match out.splitOn '\n' with
  | [[]] => some none
  | [line, []] =>
      match line.splitOn ' ' with
      | [action, depth, lines] => do
          let depth ← Decimal.read? depth
          let lines ← (lines.splitOn ',').mapM Decimal.read?
          return some (String.ofList action, depth, lines)
      | _ => none
  | _ => none

/-- Between commas stand integers only. -/
theorem notMem_numberList {c : Char} (hpart : Decimal.isPart c = false) (hcomma : c ≠ ',')
    (numbers : List Int) : c ∉ (numberList "," numbers).toList := by
  have hnumber (n : Int) : c ∉ (toString n).toList := by
    intro hc
    rw [Decimal.isPart_of_mem_toString hc] at hpart
    cases hpart
  rw [toList_numberList]
  induction numbers with
  | nil => simp
  | cons n rest ih =>
      cases rest with
      | nil => simpa using hnumber n
      | cons next rest =>
          simp only [List.map_cons, List.intercalate_cons_cons, List.mem_append, not_or] at ih ⊢
          exact ⟨⟨hnumber n, by simpa using hcomma⟩, ih⟩

theorem mapM_read?_toString (numbers : List Int) :
    (numbers.map fun n => (toString n).toList).mapM Decimal.read? = some numbers := by
  induction numbers with
  | nil => rfl
  | cons n rest ih =>
      rw [List.map_cons, List.mapM_cons, Decimal.read?_toString, ih]
      rfl

/-- The line that is printed about a request, without its end. -/
def lineText (r : Request) : List Char :=
  [' '].intercalate [r.action.name.toList, (toString r.depth).toList,
    (numberList "," r.lines).toList]

theorem toList_renderText (r : Request) :
    (renderText (some r)).toList = ['\n'].intercalate [lineText r, []] := by
  have hstring (s : String) : toString s = s := rfl
  simp [renderText, hstring, lineText, List.intercalate_cons_cons]

/-- The three parts of a line have neither blanks nor line ends in them. -/
theorem notMem_lineParts {c : Char} (hc : c = ' ' ∨ c = '\n') (r : Request) :
    ∀ part ∈ [r.action.name.toList, (toString r.depth).toList, (numberList "," r.lines).toList],
      c ∉ part := by
  have hpart : Decimal.isPart c = false := by rcases hc with rfl | rfl <;> decide
  have hcomma : c ≠ ',' := by rcases hc with rfl | rfl <;> decide
  simp only [List.forall_mem_cons]
  refine ⟨?_, ?_, notMem_numberList hpart hcomma r.lines, by simp⟩
  · rcases hc with rfl | rfl <;> cases r.action <;> decide
  · intro hmem
    rw [Decimal.isPart_of_mem_toString (n := (r.depth : Int)) hmem] at hpart
    cases hpart

theorem readLine?_renderText {request : Option Request} (hlines : ∀ r ∈ request, r.lines ≠ []) :
    readLine? (renderText request).toList =
      some (request.map fun r => (r.action.name, (r.depth : Int), r.lines)) := by
  cases request with
  | none => rfl
  | some r =>
      have hline : '\n' ∉ lineText r := by
        have hparts := notMem_lineParts (.inr rfl) r
        simp only [List.forall_mem_cons] at hparts
        obtain ⟨haction, hdepth, hnumbers, -⟩ := hparts
        simp only [lineText, List.intercalate_cons_cons, List.intercalate_singleton,
          List.mem_append, not_or]
        exact ⟨⟨haction, by decide⟩, ⟨hdepth, by decide⟩, hnumbers⟩
      have hout : (renderText (some r)).toList.splitOn '\n' = [lineText r, []] := by
        rw [toList_renderText]
        exact List.splitOn_intercalate '\n' (by simpa using hline) (by simp)
      have hparts : (lineText r).splitOn ' ' = [r.action.name.toList, (toString r.depth).toList,
          (numberList "," r.lines).toList] :=
        List.splitOn_intercalate ' ' (notMem_lineParts (.inl rfl) r) (by simp)
      have hnumbers : ((numberList "," r.lines).toList.splitOn ',') =
          r.lines.map fun n => (toString n).toList := by
        rw [toList_numberList]
        refine List.splitOn_intercalate ',' ?_ (by simpa using hlines r rfl)
        intro piece hpiece hmem
        obtain ⟨n, -, rfl⟩ := List.mem_map.mp hpiece
        cases Decimal.isPart_of_mem_toString hmem
      have hdepth : Decimal.read? (toString r.depth).toList = some (r.depth : Int) :=
        Decimal.read?_toString r.depth
      simp only [readLine?, hout, hparts, hnumbers, hdepth, mapM_read?_toString,
        Option.bind_eq_bind, Option.bind_some, String.ofList_toList]
      rfl

/-- The items of a list of integers. -/
def integers? : Value → Option (List Int)
  | .list items =>
      items.mapM fun
        | .int n => some n
        | _ => none
  | _ => none

theorem integers?_list (numbers : List Int) :
    integers? (.list (numbers.map .int)) = some numbers := by
  induction numbers with
  | nil => rfl
  | cons n rest ih =>
      rw [integers?] at ih ⊢
      rw [List.map_cons, List.mapM_cons, ih]
      rfl

/-- The lines that are printed about a request. -/
def printedLines? (format : Format) (out : String) : Option (List Int) :=
  match format with
  | .text => (readLine? out.toList).map fun said => (said.map (·.2.2)).getD []
  | .json => (Json.read? out.toList).bind fun object => (object.lookup? "lines").bind integers?

/-- In either format the lines that are printed are those of the request. -/
theorem printedLines?_render (format : Format) (intent : Intent) {request : Option Request}
    (hlines : ∀ r ∈ request, r.lines ≠ []) :
    printedLines? format (render format intent request) = some (linesOf request) := by
  cases format with
  | text =>
      rw [printedLines?, render, readLine?_renderText hlines]
      cases request <;> rfl
  | json =>
      have hlookup : (fields intent request).lookup? "lines" =
          some (.list ((linesOf request).map .int)) := rfl
      simp only [printedLines?, render, read?_renderJson, Option.bind_some, hlookup, integers?_list]

end Command

end Foldline
