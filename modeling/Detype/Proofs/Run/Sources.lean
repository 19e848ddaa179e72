import Detype.Proofs.Run.Footprint

/-
**What becomes of the sources of a run.**

A run may write over a file that it was given: nothing compares the inputs with the outputs, and a file that is given
may have the name of code. That is the only way in which an input loses its text. Files with the names of sources, and
so all that are found in directories, keep theirs.

* `Input.StandsAt` — where the file of an input stands.
* `StandsAt.name_eq` — it stands under the file name of its path.
* `World.IsOutput.name_eq` — a run writes no file under the name of a source.
* `runInOrder_sources` — what becomes of the file of an input.
* `ownOutput_overwritten` — a run that writes over one of its inputs.
-/

namespace Detype

open FileTree

/-! ### Where inputs stand -/

/-- The file of an input stands at a place: the path of the input leads there, or the input lies there below a directory
of the arguments. -/
inductive Input.StandsAt (input : Input) (t : FileTree) (cwd : Location) (place : Location) : Prop
  | given {content : ByteArray} : t.entryAt? cwd input.path = some (place, .file content) →
      StandsAt input t cwd place
  | below {root : String} {above : Location} {front : List (List Char)} {last : List Char} :
      Collected t cwd input root above front last → place = above ++ (front ++ [last]).map nameOf →
      StandsAt input t cwd place

namespace Input.StandsAt

variable {input : Input} {t : FileTree} {cwd place : Location}

theorem file (stands : input.StandsAt t cwd place) : ∃ content, t.get? place = some (.file content) := by
  cases stands with
  | given found => exact ⟨_, get?_of_entryAt? found⟩
  | below collected there => exact there ▸ collected.stands

/-- **The file of an input stands under the file name of its path.** -/
theorem name_eq (stands : input.StandsAt t cwd place) (linkless : t.Linkless) :
    ∃ above name, Path.fileName? input.path = some (String.ofList name) ∧ place = above ++ [nameOf name] := by
  cases stands with
  | given found =>
    obtain ⟨front, last, ending, proper⟩ := ending_of_file found
    obtain ⟨above, there⟩ := place_of_file linkless ending found
    exact ⟨above, last, ending.fileName? proper.down, there⟩
  | @below root above front last collected there =>
    refine ⟨above ++ front.map nameOf, last, collected.fileName?_eq, ?_⟩
    rw [there, List.map_append, List.map_singleton, List.append_assoc]

end Input.StandsAt

theorem exists_standsAt {t : FileTree} (sound : t.Sound) {cwd : Location} {ignore : Glob.Patterns}
    {paths : List String} {input : Input} (member : input ∈ (collect t cwd ignore paths).inputs) :
    ∃ place, input.StandsAt t cwd place := by
  rcases given_or_collected sound member with ⟨_, place, content, found, _⟩ | ⟨root, place, front, last, collected⟩
  · exact ⟨place, .given found⟩
  · exact ⟨_, .below collected rfl⟩

/-! ### The names of outputs -/

/-- **A run writes no file under the name of a source.** -/
theorem World.IsOutput.name_eq {w : World} {args : Arguments} {schedule : Nat → List Nat} (sound : w.tree.Sound)
    {path : String} (output : w.IsOutput args schedule path) {t : FileTree} (linkless : t.Linkless) {place : Location}
    {content : ByteArray} (found : t.entryAt? w.cwd path = some (place, .file content)) :
    ∃ above name, isSourceFile (String.ofList name) = false ∧ place = above ++ [nameOf name] := by
  obtain ⟨settings, outDir, input, ⟨inputs, i, collects, given, _⟩, own⟩ := output
  obtain ⟨searched, planned⟩ := collects.planned
  obtain ⟨⟨ignore, rfl⟩, _⟩ := plan_ok planned
  obtain ⟨front, code, codeAt⟩ := codeAt_of_collect sound (List.mem_of_getElem? given)
  have ending := codeAt.ending outDir
  rw [Input.outputs, List.mem_cons] at own
  rcases own with rfl | own
  · obtain ⟨above, there⟩ := place_of_file linkless ending found
    exact ⟨above, code, codeAt.not_isSource.1, there⟩
  · split at own
    · rw [List.mem_singleton.mp own] at found
      obtain ⟨above, there⟩ := place_of_file linkless (ending_mapPath ending).1 found
      exact ⟨above, _, codeAt.not_isSource.2, there⟩
    · cases own

/-! ### The files of inputs after a run -/

/-- **What becomes of the file of an input.** It keeps its text, unless the run writes an output to that very file. If it
has the name of a source, and so if it was found in a directory, it keeps its text in any case. -/
theorem runInOrder_sources {w : World} {args : Arguments} {schedule : Nat → List Nat} (sound : w.tree.Sound)
    (linkless : w.tree.Linkless) (orders : ∀ n, (schedule n).Perm (List.range n)) {ignore : Glob.Patterns}
    {input : Input} (member : input ∈ (collect w.tree w.cwd ignore args.inputs).inputs) :
    (∃ place, input.StandsAt w.tree w.cwd place) ∧ ∀ place, input.StandsAt w.tree w.cwd place →
      (∃ content, w.tree.get? place = some (.file content)) ∧
      ((w.runInOrder args schedule).tree.get? place = w.tree.get? place ∨
        ∃ path content, w.IsOutput args schedule path ∧
          (w.runInOrder args schedule).tree.entryAt? w.cwd path = some (place, .file content)) ∧
      (∀ name, Path.fileName? input.path = some name → isSourceFile name = true →
        (w.runInOrder args schedule).tree.get? place = w.tree.get? place) ∧
      ∀ root above front last, Collected w.tree w.cwd input root above front last →
        (w.runInOrder args schedule).tree.get? place = w.tree.get? place := by
  have traced : Traced w.cwd (w.IsOutput args schedule) (w.IsAboveOutput args schedule) w.tree
      (w.runInOrder args schedule).tree := World.traced_runInOrder orders
  have linkless' := traced.linkless linkless
  refine ⟨exists_standsAt sound member, fun place stands => ?_⟩
  obtain ⟨content, file⟩ := stands.file
  have kept : (w.runInOrder args schedule).tree.get? place = w.tree.get? place ∨
      ∃ path content, w.IsOutput args schedule path ∧
        (w.runInOrder args schedule).tree.entryAt? w.cwd path = some (place, .file content) := by
    by_cases same : (w.runInOrder args schedule).tree.get? place = w.tree.get? place
    · exact Or.inl same
    · rcases traced.led place same with ⟨path, content', own, leads, _⟩ | ⟨_, _, _, _, free⟩
      · exact Or.inr ⟨path, content', own, leads⟩
      · rw [file] at free
        cases free
  have source : ∀ name, Path.fileName? input.path = some name → isSourceFile name = true →
      (w.runInOrder args schedule).tree.get? place = w.tree.get? place := by
    intro name named isSource
    rcases kept with same | ⟨path, content', own, leads⟩
    · exact same
    · obtain ⟨above, last, named', there⟩ := stands.name_eq linkless
      obtain ⟨above', name', other, there'⟩ := own.name_eq sound linkless' leads
      rw [named] at named'
      cases named'
      rw [there] at there'
      have names := nameOf_injective (List.cons.inj (List.append_inj' there' rfl).2).1
      rw [← names, isSource] at other
      cases other
  exact ⟨⟨content, file⟩, kept, source, fun root above front last collected =>
    source _ collected.fileName?_eq collected.isSource⟩

/-- A working directory with the empty files `a.js` and `b.ts`. -/
def ownOutput : World where
  tree := ⟨[(["w"].map Text.bytesOf, .directory), (["w", "a.js"].map Text.bytesOf, .file .empty),
    (["w", "b.ts"].map Text.bytesOf, .file .empty)]⟩
  cwd := ["w"].map Text.bytesOf

/-- Compile both files into the working directory, with source maps. -/
def intoPlace : Arguments := { inputs := ["b.ts", "a.js"], outDir := some ".", sourceMap := true }

theorem ownOutput_source :
    (ownOutput.runInOrder intoPlace List.range).tree.get? (["w", "b.ts"].map Text.bytesOf) = some (.file .empty) := by
  have member : (⟨"b.ts", "b.ts"⟩ : Input) ∈ (collect ownOutput.tree ownOutput.cwd [] intoPlace.inputs).inputs := by
    decide +kernel
  have given : ownOutput.tree.entryAt? ownOutput.cwd "b.ts" = some ((["w", "b.ts"].map Text.bytesOf), .file .empty) := by
    decide +kernel
  have orders : ∀ n, (List.range n).Perm (List.range n) := fun n => .refl _
  obtain ⟨_, become⟩ := runInOrder_sources (sound_of_entries (by decide +kernel)) (linkless_of_entries (by decide +kernel)) orders member
  obtain ⟨_, _, source, _⟩ := become _ (.given given)
  exact (source "b.ts" (by decide +kernel) (by decide +kernel)).trans (get?_of_entryAt? given)

/-- Code that names its source map is not empty. -/
theorem codeText_ne_empty (code destination : String) : (codeText true code destination).toUTF8 ≠ .empty := by
  intro empty
  have text := congrArg String.fromUTF8? empty
  have nothing : String.fromUTF8? .empty = some "" := by decide +kernel
  rw [fromUTF8?_toUTF8, nothing] at text
  have spelled := congrArg String.toList (Option.some.inj text)
  unfold codeText mapComment at spelled
  rw [if_pos rfl, String.toList_append, String.toList_append, String.toList_append, String.toList_empty] at spelled
  exact absurd (List.append_eq_nil_iff.mp (List.append_eq_nil_iff.mp spelled).2).2 (by decide)

/-- What the run resolves of its arguments. -/
def intoPlaceSettings : Settings := { options := { sourceMap := true }, outDir := some "." }

theorem ownOutput_collects :
    ownOutput.Collects intoPlace intoPlaceSettings [⟨"b.ts", "b.ts"⟩, ⟨"a.js", "a.js"⟩] :=
  .of_plan rfl (by decide +kernel) rfl rfl (by decide +kernel)

/-- **Not every run keeps its sources**: the output for a file that is given may be that very file. -/
theorem ownOutput_overwritten :
    ownOutput.tree.Sound ∧ ownOutput.tree.Linkless ∧
      ownOutput.Collects intoPlace intoPlaceSettings [⟨"b.ts", "b.ts"⟩, ⟨"a.js", "a.js"⟩] ∧
      (⟨"a.js", "a.js"⟩ : Input).StandsAt ownOutput.tree ownOutput.cwd (["w", "a.js"].map Text.bytesOf) ∧
      (ownOutput.runInOrder intoPlace List.range).failed? = some 0 ∧
      (ownOutput.runInOrder intoPlace List.range).tree.get? (["w", "a.js"].map Text.bytesOf) ≠
        ownOutput.tree.get? (["w", "a.js"].map Text.bytesOf) := by
  have given : ownOutput.tree.entryAt? ownOutput.cwd "a.js" = some ((["w", "a.js"].map Text.bytesOf), .file .empty) := by
    decide +kernel
  have destination : (⟨"a.js", "a.js"⟩ : Input).destination "." = "./a.js" := by decide +kernel
  -- The step on `a.js` is the last, so its code is what the run leaves there.
  obtain ⟨before, last, fine, there⟩ : ∃ before,
      (ownOutput.runInOrder intoPlace List.range).tree =
        (processFile intoPlaceSettings ownOutput.cwd ⟨"a.js", "a.js"⟩ before).1 ∧
      (processFile intoPlaceSettings ownOutput.cwd ⟨"a.js", "a.js"⟩ before).2.failed = false ∧
      ((processFile intoPlaceSettings ownOutput.cwd ⟨"a.js", "a.js"⟩ before).1.entryAt? ownOutput.cwd "./a.js").map
        (·.1) = some (["w", "a.js"].map Text.bytesOf) := by
    refine ⟨(processFile intoPlaceSettings ownOutput.cwd ⟨"b.ts", "b.ts"⟩ ownOutput.tree).1, ?_, by decide +kernel,
      by decide +kernel⟩
    obtain ⟨log, report_eq⟩ := ownOutput_collects.runInOrder_eq
    rw [report_eq, World.report_tree]
    have order : List.range [(⟨"b.ts", "b.ts"⟩ : Input), ⟨"a.js", "a.js"⟩].length = [0, 1] := by decide
    rw [order]
    unfold processAll
    dsimp only
    rw [processSteps_tree (List.getElem?_cons_zero ..), processSteps_tree (List.getElem?_cons_succ ..), processSteps]
  have accounted := (⟨"a.js", "a.js"⟩ : Input).accounted intoPlaceSettings ownOutput.cwd intoPlace before
  obtain ⟨_, output, _, _, served, _⟩ := (accounted.arrives.mp fine).served
  obtain ⟨⟨place, found⟩, _⟩ := served "." rfl
  rw [destination] at found
  rw [found] at there
  obtain rfl : place = ["w", "a.js"].map Text.bytesOf := Option.some.inj there
  refine ⟨sound_of_entries (by decide +kernel), linkless_of_entries (by decide +kernel), ownOutput_collects, .given given,
    by decide +kernel, ?_⟩
  rw [last, get?_of_entryAt? found, get?_of_entryAt? given]
  intro same
  exact codeText_ne_empty _ _ (Entry.file.inj (Option.some.inj same))

end Detype
