import Detype.Proofs.Files.Follow
import Detype.Proofs.Run.Abort
import Detype.Proofs.Run.Schedules
import Detype.Run.Invocation

/-
**What becomes of the inputs of a run.**

A run that ends with a summary has an outcome for each of its inputs. Either the code of the input arrives, in its
file or on standard output, or the input is counted as failed and one error is reported for it.

* `Input.Arrives`, `Input.Fails` — what a step leaves of an input that has output, or of one that has none.
* `Ends.arrives_iff`, `Ends.fails_iff` — which of the two it is, is what is counted.
* `World.Accounts` — a report accounts for the inputs of its run.
* `runInOrder_accounts` — the report of every run that ends with a summary does.
-/

namespace Detype

open FileTree

/-! ### What a step leaves of its input -/

namespace Input

/-- The code of an input arrives: the text that the step finds compiles, and the code is in the file for it, or it is
what standard output gets if there is no output directory. No error is reported. -/
structure Arrives (input : Input) (settings : Settings) (cwd : Location) (args : Arguments) (before after : FileTree)
    (o : FileOutcome) : Prop where
  served : ∃ source output, before.readText cwd input.path = .ok source ∧
    compile source (settings.optionsFor input.path) = .ok output ∧
    (∀ outDir, settings.outDir = some outDir →
      after.Holds cwd (input.destination outDir)
          (codeText settings.options.sourceMap output.code (input.destination outDir)).toUTF8 ∧
        ∀ banners, World.outcomeText banners o = "") ∧
    (settings.outDir = none →
      ∀ banners, World.outcomeText banners o = (if banners then "// " ++ input.path ++ "\n" else "") ++ output.code)
  quiet : (World.reported args o).filter Finding.isError = []

/-- An input fails: standard output gets nothing of it, and one error is reported. -/
structure Fails (args : Arguments) (o : FileOutcome) : Prop where
  silent : ∀ banners, World.outcomeText banners o = ""
  oneError : ((World.reported args o).filter Finding.isError).length = 1

/-- The diagnostics of the text that a step finds, if it compiles. -/
def diagnostics (input : Input) (settings : Settings) (cwd : Location) (t : FileTree) : List Diagnostic :=
  match t.readText cwd input.path with
  | .error _ => []
  | .ok source =>
    match compile source (settings.optionsFor input.path) with
    | .error _ => []
    | .ok output => output.diagnostics

end Input

theorem isError_ofError (e : CompileError) : (Finding.ofError e).isError = true := by cases e <;> rfl

/-- Diagnostics are no errors. -/
theorem errors_ofDiagnostic (diagnostics : List Diagnostic) :
    (diagnostics.map Finding.ofDiagnostic).filter Finding.isError = [] := by
  rw [List.filter_eq_nil_iff]
  intro f member
  obtain ⟨d, _, rfl⟩ := List.mem_map.mp member
  exact Bool.false_ne_true

/-- The errors of an outcome are reported, whether or not its other findings are. -/
theorem errors_reported (args : Arguments) (o : FileOutcome) :
    (World.reported args o).filter Finding.isError = o.findings.filter Finding.isError := by
  unfold World.reported
  rw [List.filter_filter]
  congr 1
  funext f
  cases f.isError <;> simp

theorem outcomeText_none {o : FileOutcome} (none : o.code = none) (banners : Bool) :
    World.outcomeText banners o = "" := by rw [World.outcomeText, none]

theorem codeText_eq (maps : Bool) (code destination : String) :
    (if maps then withMapComment code destination else code) = codeText maps code destination := by
  cases maps with
  | true => exact withMapComment_eq code destination
  | false => rfl

/-- A file without output has the error that was found. -/
theorem fails_failure {path message : String} {finding : Finding} (isError : finding.isError = true)
    (args : Arguments) : Input.Fails args (.failure path finding message) := by
  refine ⟨outcomeText_none rfl, ?_⟩
  rw [errors_reported, FileOutcome.failure, List.filter_cons_of_pos isError]
  rfl

/-- A file whose output could not be written has the error of that, before its diagnostics. -/
theorem fails_ofWriting {path destination : String} {output : Output} {r : Except FileError Unit}
    (failed : (FileOutcome.ofWriting path destination output r).failed = true) (args : Arguments) :
    Input.Fails args (.ofWriting path destination output r) := by
  refine ⟨outcomeText_none (code_ofWriting ..), ?_⟩
  rw [errors_reported]
  cases r with
  | ok _ => cases failed
  | error e =>
    have own : (Finding.ofMessage e.message).isError = true := rfl
    rw [FileOutcome.ofWriting, List.filter_cons_of_pos own, errors_ofDiagnostic]
    rfl

namespace Ends

variable {settings : Settings} {cwd : Location} {input : Input} {t : FileTree} {r : FileTree × FileOutcome}

/-- The outcome of a step is about its input. -/
theorem path_eq (ends : Ends settings cwd input t r) : r.2.path = input.path := by
  cases ends with
  | unread | uncompiled | printed => rfl
  | written =>
    dsimp only
    unfold FileOutcome.ofWriting
    split <;> rfl

/-- Diagnostics are counted of every text that compiles, even if its code cannot be written. -/
theorem diagnostics_eq (ends : Ends settings cwd input t r) :
    r.2.diagnostics = (input.diagnostics settings cwd t).length := by
  unfold Input.diagnostics
  cases ends with
  | unread read => simp only [read, FileOutcome.failure, List.length_nil]
  | uncompiled read failed => simp only [read, failed, FileOutcome.failure, List.length_nil]
  | printed read compiled => simp only [read, compiled, FileOutcome.printed, FileOutcome.compiled]
  | written read compiled =>
    simp only [read, compiled]
    unfold FileOutcome.ofWriting
    split <;> rfl

/-- **Of an input that does not fail the code arrives.** -/
theorem arrives (ends : Ends settings cwd input t r) (fine : r.2.failed = false) (args : Arguments) :
    input.Arrives settings cwd args t r.1 r.2 := by
  cases ends with
  | unread | uncompiled => cases fine
  | @printed source output read compiled out =>
    refine ⟨⟨source, output, read, compiled, fun outDir impossible => ?_, fun _ banners => rfl⟩, ?_⟩
    · rw [out] at impossible
      cases impossible
    · rw [errors_reported]
      exact errors_ofDiagnostic output.diagnostics
  | @written source outDir output read compiled out =>
    dsimp only at fine ⊢
    have put := ofWriting_failed fine
    refine ⟨⟨source, output, read, compiled, fun outDir' same => ⟨?_, ?_⟩, fun none => ?_⟩, ?_⟩
    · rw [out] at same
      cases same
      have held := entryAt?_writeOutput put
      rw [compile_sourceMap compiled, optionsFor_sourceMap out, codeText_eq] at held
      exact held
    · exact outcomeText_none (code_ofWriting ..)
    · rw [out] at none
      cases none
    · rw [errors_reported, put]
      exact errors_ofDiagnostic output.diagnostics

/-- **Of an input that fails nothing is shown**, and it has one error. -/
theorem fails (ends : Ends settings cwd input t r) (failed : r.2.failed = true) (args : Arguments) :
    Input.Fails args r.2 := by
  cases ends with
  | unread => exact fails_failure rfl args
  | @uncompiled source e => exact fails_failure (isError_ofError e) args
  | printed => cases failed
  | written =>
    dsimp only at failed ⊢
    exact fails_ofWriting failed args

theorem not_arrives_of_fails {args : Arguments} {o : FileOutcome} {before after : FileTree}
    (fails : Input.Fails args o) : ¬ input.Arrives settings cwd args before after o := by
  intro arrives
  have one := fails.oneError
  rw [arrives.quiet] at one
  cases one

/-- **An input is counted as failed just if it fails.** -/
theorem fails_iff (ends : Ends settings cwd input t r) (args : Arguments) :
    r.2.failed = true ↔ Input.Fails args r.2 := by
  refine ⟨fun failed => ends.fails failed args, fun fails => ?_⟩
  cases outcome : r.2.failed with
  | true => rfl
  | false => exact absurd (ends.arrives outcome args) (not_arrives_of_fails fails)

/-- **The code of all other inputs arrives.** -/
theorem arrives_iff (ends : Ends settings cwd input t r) (args : Arguments) :
    r.2.failed = false ↔ input.Arrives settings cwd args t r.1 r.2 := by
  refine ⟨fun fine => ends.arrives fine args, fun arrives => ?_⟩
  cases outcome : r.2.failed with
  | false => rfl
  | true => exact absurd arrives (not_arrives_of_fails (ends.fails outcome args))

end Ends

/-! ### The account of a run -/

/-- The tree that a step finds in a run: what the steps before it leave. -/
def treeBefore (settings : Settings) (cwd : Location) (inputs : List Input) (order : List Nat) (t : FileTree)
    (i : Nat) : FileTree :=
  (processSteps settings cwd inputs (order.takeWhile (· != i)) t).1

theorem treeBefore_eq {settings : Settings} {cwd : Location} {inputs : List Input} {first later : List Nat} {t : FileTree}
    {i : Nat} (early : i ∉ first) :
    treeBefore settings cwd inputs (first ++ i :: later) t i = (processSteps settings cwd inputs first t).1 := by
  have before : (first ++ i :: later).takeWhile (· != i) = first := by
    rw [List.takeWhile_append_of_pos, List.takeWhile_cons_of_neg (by simp), List.append_nil]
    intro j member
    rw [bne_iff_ne]
    rintro rfl
    exact early member
  rw [treeBefore, before]

/-- An outcome accounts for an input in a tree: the input is counted as failed or its code arrives, and not both. -/
structure Input.Accounted (input : Input) (settings : Settings) (cwd : Location) (args : Arguments) (t : FileTree)
    (o : FileOutcome) : Prop where
  path : o.path = input.path
  fails : o.failed = true ↔ Input.Fails args o
  arrives : o.failed = false ↔ input.Arrives settings cwd args t (processFile settings cwd input t).1 o
  diagnostics : o.diagnostics = (input.diagnostics settings cwd t).length

theorem Input.accounted (input : Input) (settings : Settings) (cwd : Location) (args : Arguments) (t : FileTree) :
    input.Accounted settings cwd args t (processFile settings cwd input t).2 := by
  have ends := ends_processFile settings cwd input t
  exact ⟨ends.path_eq, ends.fails_iff args, ends.arrives_iff args, ends.diagnostics_eq⟩

/-- **The outcome of an input** is that of its step, in the tree that the step finds. -/
theorem getElem?_processAll_eq {settings : Settings} {cwd : Location} {inputs : List Input} {order : List Nat}
    (perm : order.Perm (List.range inputs.length)) (t : FileTree) {i : Nat} {input : Input}
    (given : inputs[i]? = some input) :
    (processAll settings cwd inputs order t).2[i]? =
      some (processFile settings cwd input (treeBefore settings cwd inputs order t i)).2 := by
  have counted := (List.getElem?_eq_some_iff.mp given).1
  obtain ⟨first, later, split, early, _⟩ := turn_of_perm perm counted
  rw [getElem?_processAll perm t counted, split, treeBefore_eq early]
  exact lookup_processSteps given early later t

theorem length_processAll_eq (settings : Settings) (cwd : Location) {inputs : List Input} {order : List Nat}
    (perm : order.Perm (List.range inputs.length)) (t : FileTree) :
    (processAll settings cwd inputs order t).2.length = inputs.length := by
  refine Nat.le_antisymm (length_processAll order t) (Nat.le_of_not_lt fun short => ?_)
  have missing := List.getElem?_eq_none (Nat.le_refl (processAll settings cwd inputs order t).2.length)
  rw [getElem?_processAll_eq perm t (List.getElem?_eq_getElem short)] at missing
  cases missing

/-- **An input has the file name of its path**, whether it is given or found: the path below the output directory ends
in that name. -/
theorem relative_of_collect {t : FileTree} (sound : t.Sound) {cwd : Location} {ignore : Glob.Patterns}
    {paths : List String} {input : Input} (member : input ∈ (collect t cwd ignore paths).inputs) :
    ∃ front last, (∀ p ∈ front ++ [last], Path.Proper p) ∧
      input.relative = String.ofList (Path.joinPieces (front ++ [last])) ∧
      Path.fileName? input.path = some (String.ofList last) := by
  rcases given_or_collected sound member with ⟨_, place, content, found, relative_eq⟩ | ⟨_, _, front, last, collected⟩
  · obtain ⟨name, named, proper, _⟩ := fileName?_of_file found
    refine ⟨[], name.toList, fun p listed => (List.mem_singleton.mp listed) ▸ proper, ?_, ?_⟩
    · rw [relative_eq, named, Option.getD_some, List.nil_append, Path.joinPieces, String.ofList_toList]
    · rw [named, String.ofList_toList]
  · exact ⟨front, last, collected.proper, collected.relative_eq, collected.fileName?_eq⟩

/-- **The code of every input goes below the output directory**, also of one that is given as a file. -/
theorem codeAt_of_collect {t : FileTree} (sound : t.Sound) {cwd : Location} {ignore : Glob.Patterns}
    {paths : List String} {input : Input} (member : input ∈ (collect t cwd ignore paths).inputs) :
    ∃ front code, CodeAt input front code := by
  obtain ⟨front, last, proper, relative_eq, _⟩ := relative_of_collect sound member
  exact ⟨front, codeAt_of_proper proper relative_eq⟩

namespace World

/-- A run on files that ends with a summary has settings and inputs. -/
theorem collects_of_ok {w : World} {args : Arguments} {schedule : Nat → List Nat} {summary : Summary}
    (files : args.inputs ≠ []) (done : (w.runInOrder args schedule).result = .ok summary) :
    ∃ settings inputs, w.Collects args settings inputs := by
  have noStdin : args.readsStdin = false := List.isEmpty_eq_false_iff.mpr files
  unfold runInOrder at done
  split at done
  · cases done
  · next project found =>
    dsimp only at done
    split at done
    · cases done
    · next settings resolved =>
      rw [if_neg (by simp [noStdin])] at done
      unfold runFiles at done
      dsimp only at done
      split at done
      · cases done
      · next inputs searched planned => exact ⟨settings, inputs, ⟨project, found, resolved⟩, noStdin, searched, planned⟩

/-- A run counts as failed if a file failed, or if there are diagnostics and those count as failures. -/
theorem isFailure_eq_false {s : Summary} :
    s.isFailure = false ↔ s.failed = 0 ∧ ¬ (s.failOnDiagnostics = true ∧ 0 < s.diagnostics) := by
  unfold Summary.isFailure
  simp

/-- A report accounts for the inputs of its run. There is one outcome for each input, and the numbers of the summary
and the texts that are printed are those of the outcomes, each taken once and in the order of the inputs. -/
structure Accounts (w : World) (args : Arguments) (settings : Settings) (inputs : List Input) (order : List Nat)
    (r : RunReport) (summary : Summary) (outcomes : List FileOutcome) : Prop where
  files : summary.files = inputs.length
  all : outcomes.length = inputs.length
  each : ∀ (i : Nat) (input : Input) (o : FileOutcome), inputs[i]? = some input → outcomes[i]? = some o →
    input.Accounted settings w.cwd args (treeBefore settings w.cwd inputs order w.tree i) o
  failed : summary.failed = outcomes.countP (·.failed)
  diagnostics : summary.diagnostics = (outcomes.map (·.diagnostics)).sum
  stdout : r.stdout = String.join (outcomes.map (outcomeText (decide (inputs.length > 1))))
  stderr : r.stderr = told args summary (allReported args outcomes)
  tree : r.tree = (processSteps settings w.cwd inputs order w.tree).1

end World

/-- **A run that ends with a summary accounts for its inputs.** Standard error has one entry for each finding that is
reported, which shows the path, how serious it is and what it says. The exit code is zero just if no input failed and
there are no diagnostics that are to count as failures. -/
theorem runInOrder_accounts {w : World} {args : Arguments} {schedule : Nat → List Nat} {summary : Summary}
    (orders : ∀ n, (schedule n).Perm (List.range n)) (files : args.inputs ≠ [])
    (done : (w.runInOrder args schedule).result = .ok summary) :
    ∃ settings inputs outcomes, w.Collects args settings inputs ∧
      w.Accounts args settings inputs (schedule inputs.length) (w.runInOrder args schedule) summary outcomes ∧
      (∃ head gap foot, (w.runInOrder args schedule).stderr = head ++
        String.intercalate gap ((World.allReported args outcomes).map fun (path, f) => Report.entry args.output path f)
          ++ foot) ∧
      (∀ path f, (path, f) ∈ World.allReported args outcomes →
        Report.Shows args.output path f (Report.entry args.output path f)) ∧
      (w.tree.Sound → ∀ input ∈ inputs, ∃ front code, CodeAt input front code) ∧
      ∀ argv, Arguments.parse argv = .ok args →
        ((w.invokeInOrder argv schedule).exitCode = 0 ↔
          (∀ o ∈ outcomes, o.failed = false) ∧ ¬ (args.failOnDiagnostics = true ∧ 0 < summary.diagnostics)) := by
  obtain ⟨settings, inputs, collects⟩ := World.collects_of_ok files done
  obtain ⟨log, report_eq⟩ := collects.runInOrder_eq
  have perm := orders inputs.length
  have length_eq := length_processAll_eq settings w.cwd perm w.tree
  have exit : ∀ argv, Arguments.parse argv = .ok args →
      (w.invokeInOrder argv schedule).exitCode = if summary.isFailure then 1 else 0 := by
    intro argv parsed
    unfold World.invokeInOrder
    simp only [parsed, done]
  rw [report_eq] at done
  obtain ⟨counts, stdout, stderr⟩ := World.report_ok done
  refine ⟨settings, inputs, _, collects, ⟨?_, length_eq, fun i input o given outcome => ?_, ?_, ?_, ?_, ?_, ?_⟩,
    ?_, fun path f _ => Report.shows_entry args.output path f, fun sound input member => ?_, fun argv parsed => ?_⟩
  · rw [counts, length_eq]
  · rw [getElem?_processAll_eq perm w.tree given] at outcome
    rw [← Option.some.inj outcome]
    exact input.accounted ..
  · rw [counts]
  · rw [counts]
  · rw [report_eq, stdout, length_eq]
  · rw [report_eq, stderr]
  · rw [report_eq, World.report_tree]
    rfl
  · rw [report_eq, stderr]
    exact World.told_entries ..
  · obtain ⟨searched, planned⟩ := collects.planned
    obtain ⟨⟨ignore, rfl⟩, _⟩ := plan_ok planned
    exact codeAt_of_collect sound member
  · have fine : summary.failed = 0 ↔ ∀ o ∈ (processAll settings w.cwd inputs (schedule inputs.length) w.tree).2,
        o.failed = false := by
      rw [counts, List.countP_eq_zero]
      simp only [Bool.not_eq_true]
    have flag : summary.failOnDiagnostics = args.failOnDiagnostics := by rw [counts]
    rw [exit argv parsed, ← fine, ← flag, ← World.isFailure_eq_false]
    cases summary.isFailure <;> simp

/-- A working directory with a source file that compiles and one that is no text. -/
def mixed : World where
  tree := ⟨[(["w"].map Text.bytesOf, .directory),
    (["w", "a.ts"].map Text.bytesOf, .file "let x: number = 1;\n".toUTF8),
    (["w", "b.ts"].map Text.bytesOf, .file ⟨#[255]⟩)]⟩
  cwd := ["w"].map Text.bytesOf

/-- Compile both files. -/
def bothFiles : Arguments := { inputs := ["a.ts", "b.ts"] }

theorem mixed_accounts :
    ∃ summary settings inputs outcomes, summary.failed = 1 ∧ mixed.Collects bothFiles settings inputs ∧
      mixed.Accounts bothFiles settings inputs (List.range inputs.length) (mixed.runInOrder bothFiles List.range)
        summary outcomes := by
  have ended : (mixed.runInOrder bothFiles List.range).failed? = some 1 := by decide +kernel
  obtain ⟨summary, done, one⟩ := RunReport.exists_of_failed? ended
  obtain ⟨settings, inputs, outcomes, collects, accounts, _⟩ :=
    runInOrder_accounts (fun n => .refl (List.range n)) (by decide) done
  exact ⟨summary, settings, inputs, outcomes, one, collects, accounts⟩

end Detype
