import Detype.Proofs.Run.Printing
import Detype.Proofs.Run.Steps

/-
**Runs that are given up.**

A run that ends with an error leaves all files as they were. Before its inputs are known a run writes nothing. After
that only standard output can end it, and code goes there only in a run without an output directory, which writes
no files.

* `processFile_without_outDir` — without an output directory a step leaves the tree as it is.
* `code_processFile` — with one it has no code for standard output.
* `runInOrder_error` — what is left of a run that ends with an error.
-/

namespace Detype

section Steps

variable {settings : Settings} {cwd : Location}

/-- Without an output directory a step leaves the tree as it is. -/
theorem processFile_without_outDir (out : settings.outDir = none) (input : Input) (t : FileTree) :
    (processFile settings cwd input t).1 = t := by
  have ends := ends_processFile settings cwd input t
  generalize processFile settings cwd input t = r at ends ⊢
  cases ends with
  | unread | uncompiled | printed => rfl
  | written _ _ out' =>
    rw [out] at out'
    cases out'

theorem code_ofWriting (path destination : String) (output : Output) (r : Except FileError Unit) :
    (FileOutcome.ofWriting path destination output r).code = none := by cases r <;> rfl

/-- **There is code for standard output only without an output directory.** -/
theorem code_processFile {outDir : String} (out : settings.outDir = some outDir) (input : Input) (t : FileTree) :
    (processFile settings cwd input t).2.code = none := by
  have ends := ends_processFile settings cwd input t
  generalize processFile settings cwd input t = r at ends ⊢
  cases ends with
  | unread | uncompiled => rfl
  | printed _ _ out' =>
    rw [out] at out'
    cases out'
  | written =>
    dsimp only
    rw [code_ofWriting]

/-- Every outcome of a run is that of a step. -/
theorem mem_processSteps {inputs : List Input} {order : List Nat} {t : FileTree} {i : Nat} {o : FileOutcome}
    (member : (i, o) ∈ (processSteps settings cwd inputs order t).2) :
    ∃ input t', o = (processFile settings cwd input t').2 := by
  induction order generalizing t with
  | nil => cases member
  | cons j order ih =>
    cases given : inputs[j]? with
    | none =>
      rw [processSteps_skip given] at member
      exact ih member
    | some input =>
      rw [processSteps_cons given] at member
      rcases List.mem_cons.mp member with same | later
      · exact ⟨input, t, (Prod.mk.inj same).2⟩
      · exact ih later

theorem mem_processAll {inputs : List Input} {order : List Nat} {t : FileTree} {o : FileOutcome}
    (member : o ∈ (processAll settings cwd inputs order t).2) :
    ∃ input t', o = (processFile settings cwd input t').2 := by
  obtain ⟨i, _, found⟩ := List.mem_filterMap.mp member
  obtain ⟨before, after, split, _⟩ := List.lookup_eq_some_iff.mp found
  have listed : (i, o) ∈ (processSteps settings cwd inputs order t).2 := by
    rw [split]
    simp
  exact mem_processSteps listed

end Steps

namespace World

/-- What is left of a run that ends with an error: all files as they were, and nothing printed unless standard
output is to blame. -/
structure NoTrace (w : World) (r : RunReport) (e : RunError) : Prop where
  tree : r.tree = w.tree
  silent : (∀ cause, e ≠ .stdout cause) → r.stdout = "" ∧ r.stderr = ""

theorem noTrace_abort (w : World) (e : RunError) (log : List LogEvent) : w.NoTrace (w.abort e log) e :=
  ⟨rfl, fun _ => ⟨rfl, rfl⟩⟩

theorem noTrace_runStdin {w : World} {args : Arguments} {settings : Settings} {log : List LogEvent} {e : RunError}
    (failed : (w.runStdin args settings log).result = .error e) : w.NoTrace (w.runStdin args settings log) e := by
  unfold runStdin at failed ⊢
  split at failed
  · cases failed
    exact noTrace_abort ..
  · dsimp only at failed ⊢
    split at failed
    · cases failed
    · split at failed
      · next full =>
        cases failed
        rw [if_pos full]
        exact noTrace_abort ..
      · cases failed

/-- A run that fails while it prints its outcomes has written no files. -/
theorem noTrace_report {w : World} {args : Arguments} {settings : Settings} {inputs : List Input} {order : List Nat}
    {log : List LogEvent} {e : RunError}
    (failed : (w.report args (processAll settings w.cwd inputs order w.tree).1
      (processAll settings w.cwd inputs order w.tree).2 log).result = .error e) :
    w.NoTrace (w.report args (processAll settings w.cwd inputs order w.tree).1
      (processAll settings w.cwd inputs order w.tree).2 log) e := by
  unfold report at failed ⊢
  dsimp only at failed ⊢
  split at failed
  · next p cause printing =>
    cases failed
    obtain ⟨rfl, o, member, code, printed⟩ := stdout_of_printAll printing
    refine ⟨?_, fun other => absurd rfl (other _)⟩
    obtain ⟨input, t, rfl⟩ := mem_processAll member
    have unwritten : settings.outDir = none := by
      cases out : settings.outDir with
      | none => rfl
      | some outDir =>
        rw [code_processFile out] at printed
        cases printed
    exact processSteps_keeps (P := (· = w.tree))
      (fun i _ input _ t same => by rw [processFile_without_outDir unwritten, same]) rfl
  · cases failed

theorem noTrace_runFiles {w : World} {args : Arguments} {settings : Settings} {log : List LogEvent}
    {schedule : Nat → List Nat} {e : RunError}
    (failed : (w.runFiles args settings log schedule).result = .error e) :
    w.NoTrace (w.runFiles args settings log schedule) e := by
  unfold runFiles at failed ⊢
  dsimp only at failed ⊢
  split at failed
  · cases failed
    exact noTrace_abort ..
  · exact noTrace_report failed

/-- **A run that ends with an error leaves no trace**, whatever the order of its steps. -/
theorem runInOrder_error {w : World} {args : Arguments} {schedule : Nat → List Nat} {e : RunError}
    (failed : (w.runInOrder args schedule).result = .error e) :
    (w.runInOrder args schedule).tree = w.tree ∧
      ((∀ cause, e ≠ .stdout cause) →
        (w.runInOrder args schedule).stdout = "" ∧ (w.runInOrder args schedule).stderr = "") := by
  suffices w.NoTrace (w.runInOrder args schedule) e from ⟨this.tree, this.silent⟩
  unfold runInOrder at failed ⊢
  split at failed
  · cases failed
    exact noTrace_abort ..
  · dsimp only at failed ⊢
    split at failed
    · cases failed
      exact noTrace_abort ..
    · split at failed
      · next stdin =>
        rw [if_pos stdin]
        exact noTrace_runStdin failed
      · next files =>
        rw [if_neg files]
        exact noTrace_runFiles failed

/-- A run on an input that is not there. -/
theorem noTrace_of_missing_input :
    (runInOrder { tree := {}, cwd := [] } { inputs := ["a.ts"] } List.range).tree = {} ∧
      (runInOrder { tree := {}, cwd := [] } { inputs := ["a.ts"] } List.range).stdout = "" ∧
      (runInOrder { tree := {}, cwd := [] } { inputs := ["a.ts"] } List.range).stderr = "" := by
  have refused : (runInOrder { tree := {}, cwd := [] } { inputs := ["a.ts"] } List.range).error? =
      some (.inputNotFound "a.ts") := by decide +kernel
  obtain ⟨tree, silent⟩ := runInOrder_error (RunReport.error?_eq_some.mp refused)
  exact ⟨tree, silent fun cause other => by cases other⟩

end World

end Detype
