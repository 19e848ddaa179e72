import Detype.Proofs.Files.Follow
import Detype.Proofs.Influence
import Detype.Proofs.Run.Steps

/-
**Standard input and a file.**

A text is compiled to standard output in the same way whether it comes from a file or from standard input: the name
of the file has no part in the code unless there is a universal wrapper around it.

* `compile_optionsFor` — the options for a file give what those for standard input give.
* `Collects.of_file` — a run on one file has it as its only input.
* `report_single` — what is reported of a single outcome.
* `runInOrder_file_eq_stdin` — the run on a file and the run on its text print the same code and end alike.
-/

namespace Detype

open FileTree

/-- **The options for a file give what those for standard input give**, if its name does not turn JSX on. -/
theorem compile_optionsFor {settings : Settings} {path : String} (printing : settings.outDir = none)
    (kind : settings.options.module ≠ .umd)
    (plain : ((Path.fileName? path).getD path).endsWith ".tsx" = false) (text : String) :
    (compile text (settings.optionsFor path)).map Output.visible =
      (compile text { settings.options with sourceMap := false }).map Output.visible := by
  have options : settings.optionsFor path =
      { settings.options with fileName := some ((Path.fileName? path).getD path), sourceMap := false } := by
    unfold Settings.optionsFor Options.withFileName
    simp [printing, plain]
  have agree : Options.AgreeOnCode { settings.options with sourceMap := false } (settings.optionsFor path) := by
    rw [options]
    exact ⟨rfl, rfl, rfl, Or.inr kind, Or.inl rfl⟩
  exact compile_congr agree text

theorem readText_of_file {t : FileTree} {cwd place : Location} {path text : String}
    (file : t.entryAt? cwd path = some (place, .file text.toUTF8)) : t.readText cwd path = .ok text := by
  unfold readText
  rw [entryAt?_eq_some.mp file]
  dsimp only [bind, Except.bind]
  rw [fromUTF8?_toUTF8]
  rfl

/-- A single input is processed alone. -/
theorem processAll_single (settings : Settings) (cwd : Location) (input : Input) {order : List Nat}
    (perm : order.Perm (List.range 1)) (t : FileTree) :
    processAll settings cwd [input] order t =
      ((processFile settings cwd input t).1, [(processFile settings cwd input t).2]) := by
  have first : order = [0] := List.perm_singleton.mp perm
  subst first
  rfl

namespace World

variable {w : World} {args : Arguments} {settings : Settings} {path : String}

/-- Patterns that can be read make a set of patterns with the one that always holds. -/
theorem ignorePatterns_ok {patterns : List String} (valid : ∀ p ∈ patterns, ∃ glob, Glob.parse p = .ok glob) :
    ∃ ignore, ignorePatterns patterns = .ok ignore := by
  have always : ∃ glob, Glob.parse alwaysIgnored = .ok glob := by
    cases parsed : Glob.parse alwaysIgnored with
    | error fault =>
      have fine : (Glob.parse alwaysIgnored).isOk = true := by decide +kernel
      rw [parsed] at fine
      cases fine
    | ok glob => exact ⟨glob, rfl⟩
  have all : ∀ p ∈ patterns ++ [alwaysIgnored], ∃ glob, Glob.parse p = .ok glob := by
    intro p member
    rcases List.mem_append.mp member with given | last
    · exact valid p given
    · rwa [List.mem_singleton.mp last]
  unfold ignorePatterns
  generalize patterns ++ [alwaysIgnored] = ps at all
  induction ps with
  | nil => exact ⟨[], rfl⟩
  | cons p ps ih =>
    obtain ⟨glob, parsed⟩ := all p List.mem_cons_self
    obtain ⟨globs, rest⟩ := ih fun q member => all q (List.mem_cons_of_mem p member)
    refine ⟨glob :: globs, ?_⟩
    rw [List.mapM_cons, parsed, rest]
    rfl

/-- **A run on one file has it as its only input.** -/
theorem Collects.of_file {project : Option (String × Project)} (found : w.findProject args = .ok project)
    (resolved : Settings.resolve args project = .ok settings) (printing : settings.outDir = none)
    (patterns : ∀ p ∈ args.ignore, ∃ glob, Glob.parse p = .ok glob) {place : Location} {content : ByteArray}
    (file : w.tree.entryAt? w.cwd path = some (place, .file content)) :
    w.Collects { args with inputs := [path] } settings [⟨path, (Path.fileName? path).getD path⟩] := by
  refine ⟨⟨project, found, resolved⟩, rfl, ?_⟩
  obtain ⟨ignore, parsed⟩ := ignorePatterns_ok patterns
  unfold plan
  dsimp only
  rw [parsed]
  refine ⟨_, Prod.ext ?_ rfl⟩
  dsimp only [collect, List.foldl, harvestPath]
  rw [file, printing]
  rfl

/-! ### One text to standard output -/

/-- How a run ends that compiles one text to standard output, and what it prints there. -/
def ofSingle (w : World) (args : Arguments) : Except CompileError (String × List Diagnostic) →
    Except RunError Summary × String
  | .error _ => (.ok { files := 1, failed := 1, failOnDiagnostics := args.failOnDiagnostics }, "")
  | .ok (code, diagnostics) =>
    if w.stdoutFull && !code.isEmpty then (.error (.stdout .noSpace), "")
    else
      (.ok { files := 1, diagnostics := diagnostics.length, failOnDiagnostics := args.failOnDiagnostics }, code)

theorem runStdin_eq {text : String} (given : w.stdin = text.toUTF8) (log : List LogEvent) :
    ((w.runStdin args settings log).result, (w.runStdin args settings log).stdout) =
      w.ofSingle args ((compile text { settings.options with sourceMap := false }).map Output.visible) := by
  unfold runStdin
  rw [given, fromUTF8?_toUTF8]
  dsimp only
  cases compile text { settings.options with sourceMap := false } with
  | error e => rfl
  | ok output =>
    dsimp only [Except.map, Output.visible, ofSingle]
    split <;> rfl

/-- What is reported of a single outcome. -/
theorem report_single (tree : FileTree) (o : FileOutcome) (log : List LogEvent) :
    ((w.report args tree [o] log).result, (w.report args tree [o] log).stdout) =
      if w.stdoutFull && !(outcomeText false o).isEmpty then (.error (.stdout .noSpace), "")
      else
        (.ok { files := 1, failed := if o.failed then 1 else 0, diagnostics := o.diagnostics,
               failOnDiagnostics := args.failOnDiagnostics }, outcomeText false o) := by
  have alone : decide ([o].length > 1) = false := rfl
  unfold report
  simp only [alone, printAll]
  cases full : w.stdoutFull && !(outcomeText false o).isEmpty with
  | true => rfl
  | false =>
    simp only [Bool.false_eq_true, if_false, printOutcome]
    split <;> simp

/-- What is reported of the outcome of a text that is compiled to standard output. -/
theorem report_compiled {text : String} {input : Input} (printing : settings.outDir = none)
    (read : w.tree.readText w.cwd input.path = .ok text) (tree : FileTree) (log : List LogEvent) :
    ((w.report args tree [(processFile settings w.cwd input w.tree).2] log).result,
        (w.report args tree [(processFile settings w.cwd input w.tree).2] log).stdout) =
      w.ofSingle args ((compile text (settings.optionsFor input.path)).map Output.visible) := by
  rw [report_single]
  cases result : compile text (settings.optionsFor input.path) with
  | error e =>
    rw [(Ends.uncompiled read result).processFile_eq]
    simp [outcomeText, FileOutcome.failure, Except.map, ofSingle]
  | ok output =>
    rw [(Ends.printed read result printing).processFile_eq]
    simp [outcomeText, FileOutcome.printed, FileOutcome.compiled, Except.map, Output.visible, ofSingle]

/-- **How a run on one file ends**, and what it prints. -/
theorem runInOrder_file {text : String} {input : Input} {schedule : Nat → List Nat}
    (collects : w.Collects args settings [input]) (printing : settings.outDir = none)
    (read : w.tree.readText w.cwd input.path = .ok text) (perm : (schedule 1).Perm (List.range 1)) :
    ((w.runInOrder args schedule).result, (w.runInOrder args schedule).stdout) =
      w.ofSingle args ((compile text (settings.optionsFor input.path)).map Output.visible) := by
  obtain ⟨log, report_eq⟩ := collects.runInOrder_eq
  rw [report_eq, List.length_singleton, processAll_single settings w.cwd input perm]
  exact report_compiled printing read _ _

/-- **How a run on standard input ends**, and what it prints. -/
theorem runInOrder_stdin {project : Option (String × Project)} (found : w.findProject args = .ok project)
    (resolved : Settings.resolve args project = .ok settings) (none : args.readsStdin = true) {text : String}
    (given : w.stdin = text.toUTF8) (schedule : Nat → List Nat) :
    ((w.runInOrder args schedule).result, (w.runInOrder args schedule).stdout) =
      w.ofSingle args ((compile text { settings.options with sourceMap := false }).map Output.visible) := by
  unfold runInOrder
  simp only [found, resolved, none, if_true]
  exact runStdin_eq given _

/-- A run on one text ends with a summary if its code can be printed. -/
theorem ofSingle_ok (roomy : w.stdoutFull = false) (result : Except CompileError (String × List Diagnostic)) :
    ∃ summary, (w.ofSingle args result).1 = .ok summary := by
  cases result with
  | error e => exact ⟨_, rfl⟩
  | ok compiled =>
    simp only [ofSingle, roomy, Bool.false_and, Bool.false_eq_true, if_false]
    exact ⟨_, rfl⟩

end World

/-- **The run on a file and the run on its text print the same code and end alike**: with the same summary, or with
the same error if nothing can be written to standard output. -/
theorem runInOrder_file_eq_stdin {w : World} {args : Arguments} {settings : Settings}
    {project : Option (String × Project)} {path text : String} {place : Location} {schedule schedule' : Nat → List Nat}
    (found : w.findProject args = .ok project) (resolved : Settings.resolve args project = .ok settings)
    (printing : settings.outDir = none) (kind : settings.options.module ≠ .umd)
    (patterns : ∀ p ∈ args.ignore, ∃ glob, Glob.parse p = .ok glob)
    (file : w.tree.entryAt? w.cwd path = some (place, .file text.toUTF8)) (plain : path.endsWith ".tsx" = false)
    (perm : (schedule 1).Perm (List.range 1)) :
    (w.runInOrder { args with inputs := [path] } schedule).stdout =
        ({ w with stdin := text.toUTF8 }.runInOrder { args with inputs := [] } schedule').stdout ∧
      (w.runInOrder { args with inputs := [path] } schedule).result =
        ({ w with stdin := text.toUTF8 }.runInOrder { args with inputs := [] } schedule').result ∧
      (w.stdoutFull = false →
        ∃ summary, (w.runInOrder { args with inputs := [path] } schedule).result = .ok summary) := by
  obtain ⟨name, named, _, ends⟩ := fileName?_of_file file
  have notJsx : ((Path.fileName? path).getD path).endsWith ".tsx" = false := by
    rw [named, Option.getD_some, String.endsWith_eq_endsWith_toSlice, String.Slice.endsWith_string_eq_false_iff,
      String.copy_toSlice]
    rw [String.endsWith_eq_endsWith_toSlice, String.Slice.endsWith_string_eq_false_iff, String.copy_toSlice] at plain
    exact fun jsx => plain (jsx.trans ends)
  have collects := World.Collects.of_file found resolved printing patterns file
  have fromFile := World.runInOrder_file collects printing (readText_of_file file) perm
  have fromStdin := @World.runInOrder_stdin { w with stdin := text.toUTF8 } { args with inputs := [] } settings project
    found resolved rfl text rfl schedule'
  rw [compile_optionsFor printing kind notJsx text] at fromFile
  have same := fromFile.trans fromStdin.symm
  refine ⟨congrArg Prod.snd same, congrArg Prod.fst same, fun roomy => ?_⟩
  obtain ⟨summary, done⟩ := World.ofSingle_ok roomy
    ((compile text { settings.options with sourceMap := false }).map Output.visible)
  exact ⟨summary, (congrArg Prod.fst fromFile).trans done⟩

/-- A working directory with the file `a.ts`. -/
def oneText : World where
  tree := ⟨[(["w"].map Text.bytesOf, .directory),
    (["w", "a.ts"].map Text.bytesOf, .file "let x: number = 1;\n".toUTF8)]⟩
  cwd := ["w"].map Text.bytesOf

theorem oneText_stdin :
    (oneText.runInOrder { inputs := ["a.ts"] } List.range).stdout =
        ({ oneText with stdin := "let x: number = 1;\n".toUTF8 }.runInOrder {} List.range).stdout ∧
      (oneText.runInOrder { inputs := ["a.ts"] } List.range).result =
        ({ oneText with stdin := "let x: number = 1;\n".toUTF8 }.runInOrder {} List.range).result ∧
      (oneText.stdoutFull = false →
        ∃ summary, (oneText.runInOrder { inputs := ["a.ts"] } List.range).result = .ok summary) := by
  have missing : oneText.tree.exists_ oneText.cwd World.projectFile = false := by decide +kernel
  have found : oneText.findProject {} = .ok none := by
    unfold World.findProject
    dsimp only
    rw [missing]
    rfl
  have file : oneText.tree.entryAt? oneText.cwd "a.ts" =
      some (["w", "a.ts"].map Text.bytesOf, .file "let x: number = 1;\n".toUTF8) := by rfl
  exact @runInOrder_file_eq_stdin oneText {} {} none "a.ts" _ _ List.range List.range found rfl rfl (by decide) (by simp)
    file (by decide +kernel) (.refl _)

end Detype
