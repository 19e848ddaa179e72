import Detype.Proofs.Files.Changes
import Detype.Proofs.Run.Again

/-
**What a run touches.**

The files that a run writes are the code files and, with source maps, the map files of inputs whose text could be read
and compiled when their turn came, and the directories that it makes are on the paths to these. This holds also of runs
that fail midway, and of trees with links.

* `traced_writeOutput`, `traced_processFile`, `traced_processSteps` — what one output, one step and all steps change.
* `World.IsOutput`, `World.IsAboveOutput` — the paths at which a run may write files and make directories.
* `runInOrder_footprint` — all changes of a run are made there, and some runs change nothing.
-/

namespace Detype

open FileTree

/-- The paths above a path, nearest first. -/
def Path.above (path : String) : List String :=
  match parent? path with
  | some parent => ancestors parent
  | none => []

/-! ### One output -/

theorem traced_makeAbove (t : FileTree) (cwd : Location) (destination : String) :
    Traced cwd noPath (· ∈ Path.above destination) t (makeAbove t cwd destination).1 := by
  unfold makeAbove Path.above
  cases Path.parent? destination with
  | none => exact .refl ..
  | some parent => exact traced_makeDirectories t cwd parent

theorem traced_writeText (t : FileTree) (cwd : Location) (path text : String) :
    Traced cwd (· = path) noPath t (writeText t cwd path text).1 := by
  unfold writeText
  split
  · next written => exact traced_writeFile written
  · exact .refl ..

/-- The paths of the files of an output. -/
def Output.IsPath (output : Output) (destination path : String) : Prop :=
  path = destination ∨ output.sourceMap.isSome = true ∧ path = mapPath destination

theorem traced_writeFiles (t : FileTree) (cwd : Location) (destination : String) (output : Output) :
    Traced cwd (output.IsPath destination) noPath t (writeFiles t cwd destination output).1 := by
  have code : ∀ t text, Traced cwd (output.IsPath destination) noPath t (writeText t cwd destination text).1 :=
    fun t text => (traced_writeText t cwd destination text).mono (fun _ => Or.inl) fun _ => id
  unfold writeFiles
  split
  · exact code t _
  · next map hasMap =>
    have own : output.sourceMap.isSome = true := by
      rw [hasMap]
      rfl
    have mapped : Traced cwd (output.IsPath destination) noPath t (writeText t cwd (mapPath destination) map).1 :=
      (traced_writeText t cwd (mapPath destination) map).mono (fun _ same => Or.inr ⟨own, same⟩) fun _ => id
    split
    · next shape =>
      rw [shape] at mapped
      exact mapped
    · next shape =>
      rw [shape] at mapped
      exact mapped.trans (code _ _)

/-- **Writing an output changes its files and makes directories above them**, also if it fails midway. -/
theorem traced_writeOutput (t : FileTree) (cwd : Location) (destination : String) (output : Output) :
    Traced cwd (output.IsPath destination) (· ∈ Path.above destination) t
      (writeOutput t cwd destination output).1 := by
  have made : Traced cwd (output.IsPath destination) (· ∈ Path.above destination) t
      (makeAbove t cwd destination).1 :=
    (traced_makeAbove t cwd destination).mono (fun _ => False.elim) fun _ => id
  have files : ∀ t, Traced cwd (output.IsPath destination) (· ∈ Path.above destination) t
      (writeFiles t cwd destination output).1 :=
    fun t => (traced_writeFiles t cwd destination output).mono (fun _ => id) fun _ => False.elim
  rw [writeOutput_stages]
  split
  · next shape =>
    rw [shape] at made
    exact made
  · next shape =>
    rw [shape] at made
    exact made.trans (files _)

/-! ### The steps of a run -/

/-- An input has an output: there is an output directory, and the text of the input can be read and compiles. -/
structure Input.Yields (input : Input) (settings : Settings) (cwd : Location) (t : FileTree) (outDir : String) :
    Prop where
  out : settings.outDir = some outDir
  compiled : ∃ source output, t.readText cwd input.path = .ok source ∧
    compile source (settings.optionsFor input.path) = .ok output

section Steps

variable {settings : Settings} {cwd : Location} {inputs : List Input}

/-- **A step changes the files of its input and makes directories above them**, if the input has an output. -/
theorem traced_processFile (settings : Settings) (cwd : Location) (input : Input) (t : FileTree) :
    Traced cwd (fun path => ∃ outDir, input.Yields settings cwd t outDir ∧ path ∈ input.outputs settings outDir)
      (fun path => ∃ outDir, input.Yields settings cwd t outDir ∧ path ∈ Path.above (input.destination outDir))
      t (processFile settings cwd input t).1 := by
  have ends := ends_processFile settings cwd input t
  generalize processFile settings cwd input t = r at ends ⊢
  cases ends with
  | unread | uncompiled | printed => exact .refl ..
  | @written source outDir output read compiled out =>
    have yields : input.Yields settings cwd t outDir := ⟨out, source, output, read, compiled⟩
    have maps : output.sourceMap.isSome = settings.options.sourceMap := by
      rw [compile_sourceMap compiled, optionsFor_sourceMap out]
    dsimp only
    refine (traced_writeOutput t cwd (input.destination outDir) output).mono (fun path own => ?_)
      fun path above => ⟨outDir, yields, above⟩
    refine ⟨outDir, yields, ?_⟩
    rw [Input.outputs, ← maps]
    rcases own with rfl | ⟨on, rfl⟩
    · exact List.mem_cons_self
    · rw [if_pos on]
      exact List.mem_cons_of_mem _ List.mem_cons_self

/-- An input that has an output when its turn comes. -/
def YieldsInTurn (settings : Settings) (cwd : Location) (inputs : List Input) (order : List Nat) (t : FileTree)
    (input : Input) (outDir : String) : Prop :=
  ∃ first i later, order = first ++ i :: later ∧ inputs[i]? = some input ∧
    input.Yields settings cwd (processSteps settings cwd inputs first t).1 outDir

theorem YieldsInTurn.cons {i : Nat} {first : Input} (given : inputs[i]? = some first) {order : List Nat} {t : FileTree}
    {input : Input} {outDir : String}
    (yields : YieldsInTurn settings cwd inputs order (processFile settings cwd first t).1 input outDir) :
    YieldsInTurn settings cwd inputs (i :: order) t input outDir := by
  obtain ⟨before, j, later, split, given', yields⟩ := yields
  refine ⟨i :: before, j, later, by rw [split, List.cons_append], given', ?_⟩
  rwa [processSteps_tree given]

theorem YieldsInTurn.skip {i : Nat} (missing : inputs[i]? = none) {order : List Nat} {t : FileTree} {input : Input}
    {outDir : String} (yields : YieldsInTurn settings cwd inputs order t input outDir) :
    YieldsInTurn settings cwd inputs (i :: order) t input outDir := by
  obtain ⟨before, j, later, split, given', yields⟩ := yields
  refine ⟨i :: before, j, later, by rw [split, List.cons_append], given', ?_⟩
  rwa [processSteps_skip missing]

/-- **The steps of a run change the files of inputs that have an output in their turn**, and make directories above
these. The induction is on the order of the steps. -/
theorem traced_processSteps (order : List Nat) (t : FileTree) :
    Traced cwd
      (fun path => ∃ input outDir, YieldsInTurn settings cwd inputs order t input outDir ∧
        path ∈ input.outputs settings outDir)
      (fun path => ∃ input outDir, YieldsInTurn settings cwd inputs order t input outDir ∧
        path ∈ Path.above (input.destination outDir))
      t (processSteps settings cwd inputs order t).1 := by
  induction order generalizing t with
  | nil => exact .refl ..
  | cons i order ih =>
    cases given : inputs[i]? with
    | none =>
      rw [processSteps_skip given]
      refine (ih t).mono ?_ ?_
      · rintro path ⟨input, outDir, yields, own⟩
        exact ⟨input, outDir, yields.skip given, own⟩
      · rintro path ⟨input, outDir, yields, above⟩
        exact ⟨input, outDir, yields.skip given, above⟩
    | some input =>
      rw [processSteps_tree given]
      refine ((traced_processFile settings cwd input t).mono ?_ ?_).trans ((ih _).mono ?_ ?_)
      · rintro path ⟨outDir, yields, own⟩
        exact ⟨input, outDir, ⟨[], i, order, rfl, given, yields⟩, own⟩
      · rintro path ⟨outDir, yields, above⟩
        exact ⟨input, outDir, ⟨[], i, order, rfl, given, yields⟩, above⟩
      · rintro path ⟨input', outDir, yields, own⟩
        exact ⟨input', outDir, yields.cons given, own⟩
      · rintro path ⟨input', outDir, yields, above⟩
        exact ⟨input', outDir, yields.cons given, above⟩

/-- In an order of the inputs each has one turn, and finds what the steps before it leave. -/
theorem YieldsInTurn.treeBefore {order : List Nat} (once : order.Nodup) {t : FileTree} {input : Input} {outDir : String}
    (yields : YieldsInTurn settings cwd inputs order t input outDir) :
    ∃ i, inputs[i]? = some input ∧ input.Yields settings cwd (treeBefore settings cwd inputs order t i) outDir := by
  obtain ⟨first, i, later, rfl, given, yields⟩ := yields
  refine ⟨i, given, ?_⟩
  have early : i ∉ first := fun member => (List.nodup_append.mp once).2.2 i member i List.mem_cons_self rfl
  rwa [treeBefore_eq early]

end Steps

/-! ### The whole run -/

namespace World

variable {w : World} {args : Arguments} {schedule : Nat → List Nat}

/-- A collected input of a run that has an output when its turn comes. -/
def Produces (w : World) (args : Arguments) (schedule : Nat → List Nat) (settings : Settings) (outDir : String)
    (input : Input) : Prop :=
  ∃ inputs i, w.Collects args settings inputs ∧ inputs[i]? = some input ∧
    input.Yields settings w.cwd (treeBefore settings w.cwd inputs (schedule inputs.length) w.tree i) outDir

/-- The paths at which a run may write files: those of the outputs of its inputs. -/
def IsOutput (w : World) (args : Arguments) (schedule : Nat → List Nat) (path : String) : Prop :=
  ∃ settings outDir input, w.Produces args schedule settings outDir input ∧ path ∈ input.outputs settings outDir

/-- The paths at which a run may make directories: those above the outputs of its inputs. -/
def IsAboveOutput (w : World) (args : Arguments) (schedule : Nat → List Nat) (path : String) : Prop :=
  ∃ settings outDir input, w.Produces args schedule settings outDir input ∧
    path ∈ Path.above (input.destination outDir)

theorem runStdin_tree (settings : Settings) (log : List LogEvent) : (w.runStdin args settings log).tree = w.tree := by
  unfold runStdin
  split
  · rfl
  · dsimp only
    split
    · rfl
    · split <;> rfl

/-- **A run leaves its tree as it is, or as the steps on its inputs leave it.** -/
theorem runInOrder_tree (w : World) (args : Arguments) (schedule : Nat → List Nat) :
    (w.runInOrder args schedule).tree = w.tree ∨ ∃ settings inputs, w.Collects args settings inputs ∧
      (w.runInOrder args schedule).tree =
        (processSteps settings w.cwd inputs (schedule inputs.length) w.tree).1 := by
  unfold runInOrder
  split
  · exact Or.inl rfl
  · next project found =>
    dsimp only
    split
    · exact Or.inl rfl
    · next settings resolved =>
      split
      · exact Or.inl (runStdin_tree ..)
      · next files =>
        unfold runFiles
        dsimp only
        split
        · exact Or.inl rfl
        · next inputs searched planned =>
          refine Or.inr ⟨settings, inputs, ⟨⟨project, found, resolved⟩, ?_, searched, planned⟩, report_tree ..⟩
          exact Bool.not_eq_true _ ▸ files

/-- A run without an output directory leaves its tree as it is. -/
theorem runInOrder_tree_without_outDir {project : Option (String × Project)} {settings : Settings}
    (found : w.findProject args = .ok project) (resolved : Settings.resolve args project = .ok settings)
    (printing : settings.outDir = none) : (w.runInOrder args schedule).tree = w.tree := by
  rcases w.runInOrder_tree args schedule with same | ⟨settings', inputs, collects, tree_eq⟩
  · exact same
  · obtain ⟨project', found', resolved'⟩ := collects.resolved
    rw [found] at found'
    cases found'
    rw [resolved] at resolved'
    cases resolved'
    rw [tree_eq]
    exact processSteps_keeps (P := (· = w.tree))
      (fun i _ input _ t same => by rw [processFile_without_outDir printing, same]) rfl

/-- The changes of a run are made at the paths of its outputs. -/
theorem traced_runInOrder (orders : ∀ n, (schedule n).Perm (List.range n)) :
    Traced w.cwd (w.IsOutput args schedule) (w.IsAboveOutput args schedule) w.tree
      (w.runInOrder args schedule).tree := by
  rcases w.runInOrder_tree args schedule with same | ⟨settings, inputs, collects, tree_eq⟩
  · rw [same]
    exact .refl ..
  · have once : (schedule inputs.length).Nodup := (orders _).nodup_iff.mpr List.nodup_range
    rw [tree_eq]
    refine (traced_processSteps (schedule inputs.length) w.tree).mono ?_ ?_
    · rintro path ⟨input, outDir, yields, own⟩
      obtain ⟨i, given, yields⟩ := yields.treeBefore once
      exact ⟨settings, outDir, input, ⟨inputs, i, collects, given, yields⟩, own⟩
    · rintro path ⟨input, outDir, yields, above⟩
      obtain ⟨i, given, yields⟩ := yields.treeBefore once
      exact ⟨settings, outDir, input, ⟨inputs, i, collects, given, yields⟩, above⟩

end World

/-- **All changes of a run are made at the paths of its outputs**: files are written there, directories are made above
them, and nothing is gone. A run on standard input changes nothing, and neither does one without an output directory. -/
theorem runInOrder_footprint {w : World} {args : Arguments} {schedule : Nat → List Nat}
    (orders : ∀ n, (schedule n).Perm (List.range n)) :
    Traced w.cwd (w.IsOutput args schedule) (w.IsAboveOutput args schedule) w.tree
        (w.runInOrder args schedule).tree ∧
      (args.readsStdin = true → (w.runInOrder args schedule).tree = w.tree) ∧
      ∀ project settings, w.findProject args = .ok project → Settings.resolve args project = .ok settings →
        settings.outDir = none → (w.runInOrder args schedule).tree = w.tree := by
  refine ⟨World.traced_runInOrder orders, fun stdin => ?_, fun project settings found resolved =>
    World.runInOrder_tree_without_outDir found resolved⟩
  rcases w.runInOrder_tree args schedule with same | ⟨_, _, collects, _⟩
  · exact same
  · rw [collects.files] at stdin
    cases stdin

/-- Compile both files into a directory that is named by way of another. -/
def intoDotted : Arguments := { inputs := ["a.ts", "b.ts"], outDir := some "./x/../o" }

/-- The run makes two directories and one file; the other input cannot be read. -/
theorem mixed_footprint :
    Traced mixed.cwd (mixed.IsOutput intoDotted List.range) (mixed.IsAboveOutput intoDotted List.range) mixed.tree
        (mixed.runInOrder intoDotted List.range).tree ∧
      (mixed.runInOrder intoDotted List.range).tree.get? (["w", "x"].map Text.bytesOf) = some .directory ∧
      (mixed.runInOrder intoDotted List.range).tree.get? (["w", "o"].map Text.bytesOf) = some .directory ∧
      (mixed.runInOrder intoDotted List.range).tree.isFileAt (["w", "o", "a.js"].map Text.bytesOf) = true :=
  ⟨(runInOrder_footprint fun n => .refl (List.range n)).1, by decide +kernel, by decide +kernel, by decide +kernel⟩

end Detype
