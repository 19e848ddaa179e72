import Detype.Proofs.Run.Printing

/-
**What reporting flags can change.**

Which findings are told and in what form, and how much is logged, has no part in what a run makes: its result, the
code on standard output and the files.

* `Printed.SameProduct` — what was printed so far agrees but for what was told; one outcome keeps it
  (`sameProduct_printOutcome`), and so do all (`sameProduct_printAll`).
* `RunReport.SameProduct` — reports that agree but for standard error.
* `runInOrder_reporting` — the flags have no part in a run, whether it compiles files or standard input.
-/

namespace Detype

/-- The same arguments with findings told, and details logged, in another way. -/
def Arguments.withReporting (args : Arguments) (diagnostics : Bool) (output : ReportFormat) (verbose : Bool) :
    Arguments :=
  { args with diagnostics, output, verbose }

/-- Reports of runs that made the same: they end alike, with the same code on standard output and the same files. -/
structure RunReport.SameProduct (r r' : RunReport) : Prop where
  result : r.result = r'.result
  stdout : r.stdout = r'.stdout
  tree : r.tree = r'.tree

namespace World

/-- What was printed and counted so far, but for what was told. -/
structure Printed.SameProduct (p p' : Printed) : Prop where
  stdout : p.stdout = p'.stdout
  summary : p.summary = p'.summary

section Printing

variable {args args' : Arguments} {banners : Bool}

/-- One outcome is counted and its code printed alike, whatever is told of it. -/
theorem sameProduct_printOutcome {p p' : Printed} (same : Printed.SameProduct p p') (o : FileOutcome) :
    Printed.SameProduct (printOutcome args banners p o) (printOutcome args' banners p' o) := by
  constructor
  · rw [printOutcome_stdout, printOutcome_stdout, same.stdout]
  · rw [printOutcome_summary, printOutcome_summary, same.summary]

/-- **Outcomes are printed alike**: both times to the end, or both times up to the same one. -/
theorem sameProduct_printAll {full : Bool} {p p' : Printed} (same : Printed.SameProduct p p')
    (outcomes : List FileOutcome) :
    Printed.SameProduct (printAll args banners full p outcomes).1 (printAll args' banners full p' outcomes).1 ∧
      (printAll args banners full p outcomes).2 = (printAll args' banners full p' outcomes).2 := by
  induction outcomes generalizing p p' with
  | nil => exact ⟨same, rfl⟩
  | cons o rest ih =>
    rw [printAll, printAll]
    -- Whether an outcome can be printed depends on its code only.
    cases full && !(outcomeText banners o).isEmpty with
    | true => exact ⟨same, rfl⟩
    | false => exact ih (sameProduct_printOutcome same o)

end Printing

section Flags

variable (w : World) (args : Arguments) (diagnostics : Bool) (output : ReportFormat) (verbose : Bool)

theorem sameProduct_report (tree : FileTree) (outcomes : List FileOutcome) (log : List LogEvent) :
    (w.report (args.withReporting diagnostics output verbose) tree outcomes log).SameProduct
      (w.report args tree outcomes log) := by
  have start : Printed.SameProduct
      { summary := { files := outcomes.length, failOnDiagnostics := args.failOnDiagnostics } }
      { summary := { files := outcomes.length, failOnDiagnostics := args.failOnDiagnostics } } := ⟨rfl, rfl⟩
  obtain ⟨same, ended⟩ := @sameProduct_printAll (args.withReporting diagnostics output verbose) args
    (decide (outcomes.length > 1)) w.stdoutFull _ _ start outcomes
  unfold report
  dsimp only [Arguments.withReporting] at same ended ⊢
  generalize printAll { args with diagnostics, output, verbose } _ _ _ _ = printed at same ended
  generalize printAll args _ _ _ _ = printed' at same ended
  obtain ⟨p, stop⟩ := printed
  obtain ⟨p', stop'⟩ := printed'
  obtain rfl : stop = stop' := ended
  cases stop with
  | none => exact ⟨congrArg Except.ok same.summary, same.stdout, rfl⟩
  | some e => exact ⟨rfl, same.stdout, rfl⟩

theorem sameProduct_runStdin (settings : Settings) (log : List LogEvent) :
    (w.runStdin (args.withReporting diagnostics output verbose) settings log).SameProduct
      (w.runStdin args settings log) := by
  unfold runStdin
  dsimp only [Arguments.withReporting]
  split
  · exact ⟨rfl, rfl, rfl⟩
  · split
    · exact ⟨rfl, rfl, rfl⟩
    · split
      · exact ⟨rfl, rfl, rfl⟩
      · exact ⟨rfl, rfl, rfl⟩

/-- The inputs are searched for, read and written before anything is told. -/
theorem sameProduct_runFiles (settings : Settings) (log : List LogEvent) (schedule : Nat → List Nat) :
    (w.runFiles (args.withReporting diagnostics output verbose) settings log schedule).SameProduct
      (w.runFiles args settings log schedule) := by
  have planned : w.plan (args.withReporting diagnostics output verbose) settings = w.plan args settings := rfl
  unfold runFiles
  rw [planned]
  dsimp only
  split
  · exact ⟨rfl, rfl, rfl⟩
  · exact sameProduct_report w args diagnostics output verbose _ _ _

/-- **Reporting flags never change what a run makes**: whatever the files, standard input and the order of the steps,
the run ends with the same summary or the same error, and leaves the same code on standard output and the same
files. -/
theorem runInOrder_reporting (schedule : Nat → List Nat) :
    (w.runInOrder { args with diagnostics, output, verbose } schedule).result = (w.runInOrder args schedule).result ∧
      (w.runInOrder { args with diagnostics, output, verbose } schedule).stdout =
        (w.runInOrder args schedule).stdout ∧
      (w.runInOrder { args with diagnostics, output, verbose } schedule).tree = (w.runInOrder args schedule).tree := by
  suffices (w.runInOrder (args.withReporting diagnostics output verbose) schedule).SameProduct
      (w.runInOrder args schedule) from ⟨this.result, this.stdout, this.tree⟩
  have found : w.findProject (args.withReporting diagnostics output verbose) = w.findProject args := rfl
  unfold runInOrder
  rw [found]
  split
  · exact ⟨rfl, rfl, rfl⟩
  · next project _ =>
    have resolved : Settings.resolve (args.withReporting diagnostics output verbose) project =
        Settings.resolve args project := rfl
    dsimp only
    rw [resolved]
    split
    · exact ⟨rfl, rfl, rfl⟩
    · next settings _ =>
      have reads : (args.withReporting diagnostics output verbose).readsStdin = args.readsStdin := rfl
      rw [reads]
      by_cases stdin : args.readsStdin = true
      · rw [if_pos stdin, if_pos stdin]
        exact sameProduct_runStdin w args diagnostics output verbose settings _
      · rw [if_neg stdin, if_neg stdin]
        exact sameProduct_runFiles w args diagnostics output verbose settings _ schedule

end Flags

end World

end Detype
