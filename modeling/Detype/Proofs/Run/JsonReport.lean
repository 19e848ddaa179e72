import Detype.Proofs.Json.Printed
import Detype.Proofs.Run.Accounts

/-
**Findings as one JSON array.**

In the format of data, a run on files prints one array with all the findings that it reports, also if there are none.
A run on standard input prints the array only if there is a finding to report.

* `World.Finds` — what a run finds in its inputs, in their order.
* `TellsArray` — a text is one array of the given elements, and of no others (`TellsArray.unique`);
  `tellsArray_jsonText` — findings are printed as one.
* `stderr_runStdin`, `allReported_processAll` — what is told of standard input and of files.
* `runInOrder_jsonReport` — when standard error is one array of the findings that are reported.
-/

namespace Detype

/-! ### What a run finds -/

/-- The findings in a text that is compiled to standard output. -/
def textFindings (settings : Settings) (source : String) : List Finding :=
  match compile source { settings.options with sourceMap := false } with
  | .error e => [.ofError e]
  | .ok output => output.diagnostics.map .ofDiagnostic

/-- What the step of an input finds in a run, given the input with its number, each finding with the path of its file. -/
def stepFindings (settings : Settings) (cwd : Location) (inputs : List Input) (order : List Nat) (t : FileTree)
    (numbered : Input × Nat) : List (String × Finding) :=
  (processFile settings cwd numbered.1 (treeBefore settings cwd inputs order t numbered.2)).2.findings.map
    fun f => (numbered.1.path, f)

/-- What a run finds in its inputs, in their order. -/
inductive World.Finds (w : World) (args : Arguments) (schedule : Nat → List Nat) : List (String × Finding) → Prop
  | files {settings : Settings} {inputs : List Input} (collects : w.Collects args settings inputs) :
      w.Finds args schedule
        (inputs.zipIdx.flatMap (stepFindings settings w.cwd inputs (schedule inputs.length) w.tree))
  | stdin {project : Option (String × Project)} {settings : Settings} {source : String}
      (found : w.findProject args = .ok project) (resolved : Settings.resolve args project = .ok settings)
      (reads : args.readsStdin = true) (given : String.fromUTF8? w.stdin = some source) :
      w.Finds args schedule ((textFindings settings source).map fun f => ("<stdin>", f))

/-- The findings that are reported: errors, and warnings too if the arguments ask for them. -/
def Arguments.reported (args : Arguments) (findings : List (String × Finding)) : List (String × Finding) :=
  findings.filter fun entry => args.diagnostics || entry.2.isError

/-! ### Arrays of findings -/

/-- A text is one JSON array of the given elements, from bracket to bracket, or that and a line feed. -/
def TellsArray (text : String) (elements : List Json) : Prop :=
  ∃ inside, Json.Tells ("[" ++ inside ++ "]") (.arr elements) ∧
    (text = "[" ++ inside ++ "]" ∨ text = "[" ++ inside ++ "]" ++ "\n")

theorem TellsArray.tells {text : String} {elements : List Json} (array : TellsArray text elements) :
    Json.Tells text (.arr elements) := by
  obtain ⟨inside, tells, rfl | rfl⟩ := array
  · exact tells
  · exact tells.line

/-- **A text is an array of one list of elements** at most. -/
theorem TellsArray.unique {text : String} {elements elements' : List Json} (array : TellsArray text elements)
    (array' : TellsArray text elements') : elements = elements' :=
  Json.arr.inj (array.tells.unique array'.tells)

theorem not_tellsArray_empty (elements : List Json) : ¬ TellsArray "" elements := fun array =>
  Json.not_tells_empty _ array.tells

theorem proper_position (p : Option Position) : (Report.optionalJson p).Proper := by
  cases p with
  | none => exact .null
  | some p =>
    refine .obj ?_
    cases p.offset <;> simp [Json.Proper.int]

theorem proper_entry (path : String) (f : Finding) : (Report.entryJson path f).Proper := by
  refine .obj ?_
  simp [Json.Proper.str, proper_position]

/-- Findings as elements of an array. -/
def entriesOf (findings : List (String × Finding)) : List Json :=
  findings.map fun (path, f) => Report.entryJson path f

/-- **Findings are printed as one array.** -/
theorem tells_jsonText (findings : List (String × Finding)) :
    Json.Tells (Report.jsonText (entriesOf findings)) (.arr (entriesOf findings)) := by
  refine (Json.Proper.arr fun j member => ?_).tells_pretty 0
  obtain ⟨⟨path, f⟩, _, rfl⟩ := List.mem_map.mp member
  exact proper_entry path f

theorem tellsArray_jsonText (findings : List (String × Finding)) :
    TellsArray (Report.jsonText (entriesOf findings)) (entriesOf findings) ∧
      TellsArray (Report.jsonText (entriesOf findings) ++ "\n") (entriesOf findings) := by
  have tells := tells_jsonText findings
  rw [Report.jsonText, Json.pretty] at tells ⊢
  obtain ⟨inside, text⟩ := Json.bracketed_eq "[" "]" 0 (Json.prettyItems (0 + 1) (entriesOf findings))
  rw [text] at tells ⊢
  exact ⟨⟨inside, tells, .inl rfl⟩, ⟨inside, tells, .inr rfl⟩⟩

namespace World

variable {w : World} {args : Arguments} {settings : Settings}

/-! ### Standard input -/

/-- **What is told of standard input**: its findings that are reported, and nothing if there are none. -/
theorem stderr_runStdin {log : List LogEvent} {summary : Summary}
    (done : (w.runStdin args settings log).result = .ok summary) :
    ∃ source, String.fromUTF8? w.stdin = some source ∧
      (w.runStdin args settings log).stderr =
        let told := (textFindings settings source).filter fun f => args.diagnostics || f.isError
        if told.isEmpty then "" else Report.format args.output told "<stdin>" := by
  unfold runStdin at done ⊢
  cases given : String.fromUTF8? w.stdin with
  | none =>
    rw [given] at done
    cases done
  | some source =>
    refine ⟨source, rfl, ?_⟩
    rw [given] at done
    dsimp only at done ⊢
    unfold textFindings
    cases compiled : compile source { settings.options with sourceMap := false } with
    | error e =>
      have kept : ([Finding.ofError e].filter fun f => args.diagnostics || f.isError) = [Finding.ofError e] := by
        simp [isError_ofError]
      dsimp only
      rw [kept]
    | ok output =>
      rw [compiled] at done
      dsimp only at done ⊢
      split at done
      · cases done
      · next roomy =>
        have kept : (if args.diagnostics then output.diagnostics.map Finding.ofDiagnostic else []) =
            (output.diagnostics.map Finding.ofDiagnostic).filter fun f => args.diagnostics || f.isError := by
          cases args.diagnostics with
          | true => simp
          | false => simp [errors_ofDiagnostic]
        rw [if_neg roomy, ← kept]

/-- A run on standard input that ends with a summary has settings. -/
theorem runInOrder_of_reads {schedule : Nat → List Nat} {summary : Summary} (reads : args.readsStdin = true)
    (done : (w.runInOrder args schedule).result = .ok summary) :
    ∃ project settings log, w.findProject args = .ok project ∧ Settings.resolve args project = .ok settings ∧
      w.runInOrder args schedule = w.runStdin args settings log := by
  unfold runInOrder at done ⊢
  split at done
  · cases done
  · next project found =>
    dsimp only at done
    split at done
    · cases done
    · next settings resolved =>
      simp only [found, reads, if_true]
      exact ⟨project, settings, _, rfl, resolved, rfl⟩

/-! ### Files -/

/-- The outcomes of a run are those of its steps, in the order of the inputs. -/
theorem processAll_eq_map {inputs : List Input} {order : List Nat} (perm : order.Perm (List.range inputs.length))
    (cwd : Location) (t : FileTree) :
    (processAll settings cwd inputs order t).2 = inputs.zipIdx.map fun numbered =>
      (processFile settings cwd numbered.1 (treeBefore settings cwd inputs order t numbered.2)).2 := by
  refine List.ext_getElem? fun i => ?_
  rw [List.getElem?_map, List.getElem?_zipIdx]
  cases given : inputs[i]? with
  | none =>
    have beyond := List.getElem?_eq_none_iff.mp given
    rw [← length_processAll_eq settings cwd perm t] at beyond
    rw [List.getElem?_eq_none beyond]
    rfl
  | some input =>
    rw [getElem?_processAll_eq perm t given]
    simp

/-- **What is told of files** is what their steps find and is reported. -/
theorem allReported_processAll {inputs : List Input} {order : List Nat}
    (perm : order.Perm (List.range inputs.length)) (cwd : Location) (t : FileTree) :
    allReported args (processAll settings cwd inputs order t).2 =
      args.reported (inputs.zipIdx.flatMap (stepFindings settings cwd inputs order t)) := by
  rw [processAll_eq_map perm, allReported, List.flatMap_map, Arguments.reported, List.filter_flatMap]
  refine List.flatMap_congr fun numbered _ => ?_
  rw [(ends_processFile settings cwd numbered.1 _).path_eq, stepFindings, List.filter_map]
  rfl

end World

/-- **Standard error is one JSON array of the findings that are reported**, in the order of the inputs, and no other
array; but if standard input was compiled and there is nothing to report, it is empty, and that is no JSON. -/
theorem runInOrder_jsonReport {w : World} {args : Arguments} {schedule : Nat → List Nat} {summary : Summary}
    (orders : ∀ n, (schedule n).Perm (List.range n)) (data : args.output = .json)
    (done : (w.runInOrder args schedule).result = .ok summary) :
    ∃ findings, w.Finds args schedule findings ∧
      (∀ elements, TellsArray (w.runInOrder args schedule).stderr elements ↔
        elements = entriesOf (args.reported findings) ∧ ¬ (args.readsStdin = true ∧ args.reported findings = [])) ∧
      (args.readsStdin = true → args.reported findings = [] → (w.runInOrder args schedule).stderr = "") := by
  by_cases reads : args.readsStdin = true
  · obtain ⟨project, settings, log, found, resolved, report_eq⟩ := World.runInOrder_of_reads reads done
    rw [report_eq] at done ⊢
    obtain ⟨source, given, stderr⟩ := World.stderr_runStdin done
    have told : args.reported ((textFindings settings source).map fun f => ("<stdin>", f)) =
        ((textFindings settings source).filter fun f => args.diagnostics || f.isError).map fun f => ("<stdin>", f) :=
      List.filter_map
    refine ⟨_, .stdin found resolved reads given, ?_⟩
    rw [told, stderr, data]
    generalize (textFindings settings source).filter (fun f => args.diagnostics || f.isError) = shown
    cases shown with
    | nil =>
      refine ⟨fun elements => ?_, fun _ _ => rfl⟩
      exact ⟨fun array => absurd array (not_tellsArray_empty elements), fun same => absurd ⟨reads, rfl⟩ same.2⟩
    | cons f fs =>
      have array := (tellsArray_jsonText ((f :: fs).map fun f => ("<stdin>", f))).1
      have entries : entriesOf ((f :: fs).map fun f => ("<stdin>", f)) = Report.entriesJson (f :: fs) "<stdin>" :=
        List.map_map
      refine ⟨fun elements => ?_, fun _ none => nomatch none⟩
      rw [entries] at array ⊢
      exact ⟨fun other => ⟨other.unique array, fun none => nomatch none.2⟩, fun same => same.1 ▸ array⟩
  · have files : args.inputs ≠ [] := fun none => reads (List.isEmpty_iff.mpr none)
    obtain ⟨settings, inputs, collects⟩ := World.collects_of_ok files done
    obtain ⟨log, report_eq⟩ := collects.runInOrder_eq
    rw [report_eq] at done
    have stderr := (World.report_ok done).2.2
    rw [World.allReported_processAll (orders inputs.length), World.told, data, ← report_eq] at stderr
    have array := (tellsArray_jsonText
      (args.reported (inputs.zipIdx.flatMap (stepFindings settings w.cwd inputs (schedule inputs.length) w.tree)))).2
    refine ⟨_, .files collects, fun elements => ?_, fun stdin => absurd stdin reads⟩
    rw [stderr]
    exact ⟨fun other => ⟨other.unique array, fun stdin => reads stdin.1⟩, fun same => same.1 ▸ array⟩

/-- Report the failure of one of two files as data. -/
def bothAsData : Arguments := { inputs := ["a.ts", "b.ts"], output := .json }

theorem mixed_jsonReport :
    ∃ findings, mixed.Finds bothAsData List.range findings ∧
      TellsArray (mixed.runInOrder bothAsData List.range).stderr (entriesOf (bothAsData.reported findings)) := by
  have ended : (mixed.runInOrder bothAsData List.range).failed? = some 1 := by decide +kernel
  obtain ⟨summary, done, _⟩ := RunReport.exists_of_failed? ended
  obtain ⟨findings, finds, array, _⟩ := runInOrder_jsonReport (fun n => .refl (List.range n)) rfl done
  exact ⟨findings, finds, (array _).mpr ⟨rfl, fun stdin => absurd stdin.1 (by decide)⟩⟩

/-- One statement on standard input. -/
def oneStatement : World where
  tree := ⟨[(["w"].map Text.bytesOf, .directory)]⟩
  cwd := ["w"].map Text.bytesOf
  stdin := "let a = 1;\n".toUTF8

theorem oneStatement_no_json :
    ∃ summary, (oneStatement.runInOrder { output := .json } List.range).result = .ok summary ∧ summary.failed = 0 ∧
      ∀ elements, ¬ TellsArray (oneStatement.runInOrder { output := .json } List.range).stderr elements := by
  have ended : (oneStatement.runInOrder { output := .json } List.range).failed? = some 0 := by decide +kernel
  obtain ⟨summary, done, none⟩ := RunReport.exists_of_failed? ended
  have silent : (oneStatement.runInOrder { output := .json } List.range).stderr = "" := by decide +kernel
  refine ⟨summary, done, none, fun elements => ?_⟩
  rw [silent]
  exact not_tellsArray_empty elements

end Detype
