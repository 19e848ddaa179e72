import Detype.Proofs.Run.Step

/-
**The steps of a run.**

* `World.Collects` — a run that compiles files, with its settings and the inputs it accepts.
* `runInOrder_eq` — what such a run reports comes from the steps alone.
* `processSteps_keeps` — what every step keeps, a run keeps.
* `Gathered` — inputs from directories of a tree without links; `Collects.gathered` — a run on directories has such.
* `lookup_processSteps` — the outcome of an input is that of its step, after the steps before it.
-/

namespace Detype

open FileTree

/-! ### Steps one after the other -/

section Steps

variable {settings : Settings} {cwd : Location} {inputs : List Input}

theorem processSteps_cons {i : Nat} {input : Input} (given : inputs[i]? = some input) (order : List Nat)
    (t : FileTree) :
    processSteps settings cwd inputs (i :: order) t =
      ((processSteps settings cwd inputs order (processFile settings cwd input t).1).1,
        (i, (processFile settings cwd input t).2) ::
          (processSteps settings cwd inputs order (processFile settings cwd input t).1).2) := by
  rw [processSteps, given]

theorem processSteps_tree {i : Nat} {input : Input} (given : inputs[i]? = some input) (order : List Nat)
    (t : FileTree) :
    (processSteps settings cwd inputs (i :: order) t).1 =
      (processSteps settings cwd inputs order (processFile settings cwd input t).1).1 := by
  rw [processSteps_cons given]

theorem processSteps_skip {i : Nat} (missing : inputs[i]? = none) (order : List Nat) (t : FileTree) :
    processSteps settings cwd inputs (i :: order) t = processSteps settings cwd inputs order t := by
  rw [processSteps, missing]

/-- **What every step keeps, a run keeps.** -/
theorem processSteps_keeps {P : FileTree → Prop} {order : List Nat}
    (step : ∀ i ∈ order, ∀ input, inputs[i]? = some input → ∀ t, P t → P (processFile settings cwd input t).1)
    {t : FileTree} (holds : P t) : P (processSteps settings cwd inputs order t).1 := by
  induction order generalizing t with
  | nil => exact holds
  | cons i order ih =>
    have later := @ih fun j member => step j (List.mem_cons_of_mem i member)
    cases given : inputs[i]? with
    | none =>
      rw [processSteps_skip given]
      exact later holds
    | some input =>
      rw [processSteps_cons given]
      exact later (step i List.mem_cons_self input given t holds)

theorem processSteps_append (first later : List Nat) (t : FileTree) :
    (processSteps settings cwd inputs (first ++ later) t).1 =
      (processSteps settings cwd inputs later (processSteps settings cwd inputs first t).1).1 := by
  induction first generalizing t with
  | nil => rfl
  | cons i first ih =>
    cases given : inputs[i]? with
    | none => rw [List.cons_append, processSteps_skip given, processSteps_skip given, ih]
    | some input => rw [List.cons_append, processSteps_cons given, processSteps_cons given, ih]

/-- **The outcome of an input** is that of its step, after the steps before it. -/
theorem lookup_processSteps {i : Nat} {input : Input} (given : inputs[i]? = some input) {first : List Nat}
    (fresh : i ∉ first) (later : List Nat) (t : FileTree) :
    (processSteps settings cwd inputs (first ++ i :: later) t).2.lookup i =
      some (processFile settings cwd input (processSteps settings cwd inputs first t).1).2 := by
  induction first generalizing t with
  | nil =>
    rw [List.nil_append, processSteps_cons given, List.lookup_cons_self]
    rfl
  | cons j first ih =>
    rw [List.mem_cons, not_or] at fresh
    cases other : inputs[j]? with
    | none => rw [List.cons_append, processSteps_skip other, processSteps_skip other, ih fresh.2]
    | some input' =>
      have apart : (i == j) = false := beq_eq_false_iff_ne.mpr fresh.1
      rw [List.cons_append, processSteps_cons other, processSteps_cons other, List.lookup_cons, apart]
      exact ih fresh.2 _

/-- Every input of a run has its turn once. -/
theorem turn_of_perm {order : List Nat} (perm : order.Perm (List.range inputs.length)) {i : Nat}
    (counted : i < inputs.length) :
    ∃ first later, order = first ++ i :: later ∧ i ∉ first ∧ i ∉ later := by
  have member : i ∈ order := perm.mem_iff.mpr (List.mem_range.mpr counted)
  have once : order.Nodup := perm.nodup_iff.mpr List.nodup_range
  obtain ⟨first, later, split⟩ := List.append_of_mem member
  rw [split, List.nodup_append] at once
  refine ⟨first, later, split, fun early => ?_, (List.nodup_cons.mp once.2.1).1⟩
  exact once.2.2 i early i List.mem_cons_self rfl

end Steps

/-! ### Runs that compile files -/

/-- A run that compiles files, with its settings and the inputs it accepts. -/
structure World.Collects (w : World) (args : Arguments) (settings : Settings) (inputs : List Input) : Prop where
  resolved : ∃ project, w.findProject args = .ok project ∧ Settings.resolve args project = .ok settings
  files : args.readsStdin = false
  planned : ∃ searched, w.plan args settings = (.ok inputs, searched)

theorem ok_of_toOption {ε α : Type} {r : Except ε α} {a : α} (found : r.toOption = some a) : r = .ok a := by
  cases r with
  | error e => cases found
  | ok b => exact congrArg Except.ok (Option.some.inj found)

/-- The inputs of a run without a project file, seen from its plan. -/
theorem World.Collects.of_plan {w : World} {args : Arguments} {settings : Settings} {inputs : List Input}
    (unnamed : args.project = none) (missing : w.tree.exists_ w.cwd World.projectFile = false)
    (resolved : Settings.resolve args none = .ok settings) (files : args.readsStdin = false)
    (planned : (w.plan args settings).1.toOption = some inputs) : w.Collects args settings inputs := by
  refine ⟨⟨none, ?_, resolved⟩, files, (w.plan args settings).2, ?_⟩
  · unfold World.findProject
    rw [unnamed]
    dsimp only
    rw [missing]
    rfl
  · exact Prod.ext (ok_of_toOption planned) rfl

/-- **What a run reports comes from its steps**, apart from events that precede them. -/
theorem World.Collects.runInOrder_eq {w : World} {args : Arguments} {settings : Settings} {inputs : List Input}
    (collects : w.Collects args settings inputs) :
    ∃ log, ∀ schedule, w.runInOrder args schedule =
      w.report args (processAll settings w.cwd inputs (schedule inputs.length) w.tree).1
        (processAll settings w.cwd inputs (schedule inputs.length) w.tree).2
        (log ++ (processAll settings w.cwd inputs (schedule inputs.length) w.tree).2.flatMap FileOutcome.log) := by
  obtain ⟨project, found, resolved⟩ := collects.resolved
  obtain ⟨searched, planned⟩ := collects.planned
  simp only [runInOrder, found, resolved, collects.files, runFiles, planned, Bool.false_eq_true, if_false]
  exact ⟨_, fun schedule => rfl⟩

/-! ### Inputs that a search accepts -/

/-- Inputs from directories of a tree without links, with destinations of their own. -/
structure Gathered (t : FileTree) (cwd : Location) (settings : Settings) (inputs : List Input) : Prop where
  sound : t.Sound
  linkless : t.Linkless
  below : ∀ input ∈ inputs, ∃ root place front last, Collected t cwd input root place front last
  apart : ∀ outDir, settings.outDir = some outDir →
    inputs.Pairwise fun a b => a.destination outDir ≠ b.destination outDir

/-- **A run on directories gathers its inputs.** -/
theorem World.Collects.gathered {w : World} {args : Arguments} {settings : Settings} {inputs : List Input}
    (collects : w.Collects args settings inputs) (sound : w.tree.Sound) (linkless : w.tree.Linkless)
    (directories : ∀ path ∈ args.inputs, w.tree.isDirectory w.cwd path = true) :
    Gathered w.tree w.cwd settings inputs := by
  obtain ⟨searched, planned⟩ := collects.planned
  obtain ⟨⟨ignore, rfl⟩, accepted⟩ := plan_ok planned
  refine ⟨sound, linkless, fun input member => collected_of_collect sound directories member, fun outDir out => ?_⟩
  exact checkCollisions_ok (accepted outDir out)

namespace Gathered

variable {t : FileTree} {settings : Settings} {cwd : Location} {inputs : List Input}

theorem collected (gathered : Gathered t cwd settings inputs) {i : Nat} {input : Input}
    (given : inputs[i]? = some input) : ∃ root place front last, Collected t cwd input root place front last :=
  gathered.below input (List.mem_of_getElem? given)

/-- A step is an errand, and leaves directories and source files as they are. -/
theorem step (gathered : Gathered t cwd settings inputs) {i : Nat} {input : Input}
    (given : inputs[i]? = some input) {t' : FileTree} (grown : t.Grown t') :
    (processFile settings cwd input t').1 = ((errandOf settings cwd t input).run t').1 ∧
      t.Grown ((errandOf settings cwd t input).run t').1 := by
  obtain ⟨root, place, front, last, collected⟩ := gathered.collected given
  exact ⟨collected.processFile_tree gathered.sound gathered.linkless settings grown,
    collected.grown_run gathered.sound gathered.linkless settings grown⟩

/-- Steps of a run leave directories and source files as they are. -/
theorem grown_processSteps (gathered : Gathered t cwd settings inputs) {t' : FileTree} (grown : t.Grown t')
    (order : List Nat) : t.Grown (processSteps settings cwd inputs order t').1 := by
  refine processSteps_keeps (fun i _ input given t'' grown'' => ?_) grown
  rw [(gathered.step given grown'').1]
  exact (gathered.step given grown'').2

/-- Inputs at different numbers have different destinations. -/
theorem destination_ne (gathered : Gathered t cwd settings inputs) {i j : Nat} {a b : Input}
    (first : inputs[i]? = some a) (second : inputs[j]? = some b) (differ : i ≠ j) {outDir : String}
    (out : settings.outDir = some outDir) : a.destination outDir ≠ b.destination outDir := by
  obtain ⟨hi, rfl⟩ := List.getElem?_eq_some_iff.mp first
  obtain ⟨hj, rfl⟩ := List.getElem?_eq_some_iff.mp second
  have apart := List.pairwise_iff_getElem.mp (gathered.apart outDir out)
  rcases Nat.lt_or_gt_of_ne differ with less | more
  · exact apart i j hi hj less
  · exact (apart j i hj hi more).symm

/-- Inputs at different numbers have no file in common. -/
theorem files_apart (gathered : Gathered t cwd settings inputs) {i j : Nat} {a b : Input}
    (first : inputs[i]? = some a) (second : inputs[j]? = some b) (differ : i ≠ j) {place : Location}
    {content content' : ByteArray} (member : (.ok place, content) ∈ (errandOf settings cwd t a).files) :
    (.ok place, content') ∉ (errandOf settings cwd t b).files := by
  obtain ⟨_, _, _, _, collected⟩ := gathered.collected first
  obtain ⟨_, _, _, _, collected'⟩ := gathered.collected second
  exact errandOf_apart collected collected' gathered.sound gathered.linkless
    (fun _ out => gathered.destination_ne first second differ out) member

end Gathered

end Detype
