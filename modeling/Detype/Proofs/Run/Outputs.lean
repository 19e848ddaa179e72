import Detype.Proofs.Files.Listing
import Detype.Proofs.Run.Printing
import Detype.Proofs.Run.Steps

/-
**What a run leaves below its output directory.**

In a run on directories without failures every input has its output in the end, whatever the order of the
steps: each step finds its input as it was at the start (`Collected.readText_grown`), an errand that is done
stays done through the other steps (`Errand.Done.run_other`), and no two inputs share a place
(`errandOf_apart`).

* `done_processSteps` — the errand of an input whose step succeeds is done after the run.
* `Errand.Done.found` — the files of an output are found by their paths where its errand is done.
* `runInOrder_delivers` — the files that such a run leaves for each input.
-/

namespace Detype

open FileTree

/-! ### Outputs through a run -/

section Run

variable {t : FileTree} {settings : Settings} {cwd : Location} {inputs : List Input}

/-- **The errand of an input whose step succeeds is done after the run**: the steps before leave the input as
it is, and those after it put no file where it did. -/
theorem done_processSteps (gathered : Gathered t cwd settings inputs) {outDir : String}
    (out : settings.outDir = some outDir) {i : Nat} {input : Input} (given : inputs[i]? = some input)
    {first later : List Nat} (after : i ∉ later)
    (fine : (processFile settings cwd input (processSteps settings cwd inputs first t).1).2.failed = false) :
    ∃ source output, Writes settings cwd t input outDir source output ∧
      (errandOf settings cwd t input).Done (processSteps settings cwd inputs (first ++ i :: later) t).1 := by
  obtain ⟨root, place, front, last, collected⟩ := gathered.collected given
  obtain ⟨code, codeAt⟩ := collected.codeAt
  have grown : t.Grown (processSteps settings cwd inputs first t).1 :=
    gathered.grown_processSteps (.refl gathered.linkless) first
  rcases collected.processFile_cases gathered.sound gathered.linkless settings with
    ⟨_, outcome, fails, process⟩ | ⟨outDir', source, output, writes⟩
  · rw [process _ grown, fails (by rw [out]; rfl)] at fine
    cases fine
  · have same : outDir = outDir' := Option.some.inj (out.symm.trans writes.outDir_eq)
    subst same
    refine ⟨source, output, writes, ?_⟩
    rw [collected.processFile_writes gathered.sound gathered.linkless writes grown] at fine
    obtain ⟨tree_eq, grown'⟩ := gathered.step given grown
    have done := Errand.done_run grown.linkless
      (by rw [writes.errand_eq]; exact codeAt.files_own cwd outDir output) (ofWriting_failed fine)
    rw [processSteps_append, processSteps_cons given]
    dsimp only
    rw [tree_eq]
    refine (processSteps_keeps (P := fun t' => t.Grown t' ∧ (errandOf settings cwd t input).Done t')
      (fun j member other given' t' keeps => ?_) ⟨grown', done⟩).2
    have differ : i ≠ j := fun same => after (same ▸ member)
    obtain ⟨tree_eq', grown''⟩ := gathered.step given' keeps.1
    rw [tree_eq']
    refine ⟨grown'', keeps.2.run_other keeps.1.linkless fun place content content' mine => ?_⟩
    exact gathered.files_apart given given' differ mine

end Run

/-! ### The files of a run -/

/-- A compilation has a source map if one is asked for. -/
theorem compile_sourceMap {source : String} {options : Options} {output : Output}
    (compiled : compile source options = .ok output) : output.sourceMap.isSome = options.sourceMap := by
  unfold compile finish at compiled
  split at compiled
  · cases compiled
  · cases compiled
    cases options.sourceMap <;> rfl

theorem optionsFor_sourceMap {settings : Settings} {outDir : String} (out : settings.outDir = some outDir)
    (path : String) : (settings.optionsFor path).sourceMap = settings.options.sourceMap := by
  unfold Settings.optionsFor
  rw [out]
  rfl

/-- A path leads to a file with given bytes. -/
def FileTree.Holds (t : FileTree) (cwd : Location) (path : String) (content : ByteArray) : Prop :=
  ∃ place, t.entryAt? cwd path = some (place, .file content)

/-- What a code file says. With source maps the code is followed by the line that names its map, after a
newline if the code has a last line that is not ended. -/
def codeText (maps : Bool) (code destination : String) : String :=
  if maps then
    code ++ (if code = "" ∨ code.toList.getLast? = some '\n' then "" else "\n") ++ mapComment destination
  else code

theorem withMapComment_eq (code destination : String) :
    withMapComment code destination = codeText true code destination := by
  unfold withMapComment codeText
  by_cases empty : code = ""
  · simp [empty]
  · by_cases ended : code.toList.getLast? = some '\n' <;> simp [empty, ended]

/-- **The files of an output are found by their paths** where its errand is done: both lie in the directory to which
its way leads. -/
theorem Errand.Done.found {t : FileTree} (linkless : t.Linkless) {cwd : Location} {destination : String}
    {front : List (List Char)} {last : List Char} (ending : Path.Ending destination front last)
    (down : nameOf last ≠ dotDot) {output : Output} (done : (Errand.ofOutput cwd destination output).Done t)
    {path : String} (own : path = destination ∨ path = mapPath destination) {place : Location}
    (named : spot cwd path = .ok place) {content : ByteArray} (stands : t.get? place = some (.file content)) :
    t.entryAt? cwd path = some (place, .file content) := by
  have walked := done.walked
  rw [Errand.base_ofOutput, Errand.way_ofOutput, route, ending.names_eq, List.map_append, List.map_singleton,
    List.dropLast_concat] at walked
  rcases own with rfl | rfl
  · exact entryAt?_of_spot linkless ending down named walked stands
  · obtain ⟨mapEnding, mapDown⟩ := ending_mapPath ending
    have full : destination ≠ "" := by
      rintro rfl
      have none : [] = front ++ [last] := ending.names_eq
      simp at none
    have mapStart : start cwd (mapPath destination) = start cwd destination :=
      start_of_isAbsolute (Path.isAbsolute_append full _) cwd
    rw [← mapStart] at walked
    exact entryAt?_of_spot linkless mapEnding mapDown named walked stands

/-- The files of an output are there where its errand is done. -/
theorem Errand.Done.holds {t : FileTree} (linkless : t.Linkless) {cwd : Location} {destination : String}
    {front : List (List Char)} {last : List Char} (ending : Path.Ending destination front last)
    (down : nameOf last ≠ dotDot) {output : Output} (done : (Errand.ofOutput cwd destination output).Done t) :
    t.Holds cwd destination (codeText output.sourceMap.isSome output.code destination).toUTF8 ∧
      ∀ map, output.sourceMap = some map → t.Holds cwd (mapPath destination) map.toUTF8 := by
  have held : ∀ path content, path = destination ∨ path = mapPath destination →
      (spot cwd path, content) ∈ Errand.filesOf cwd destination output → t.Holds cwd path content := by
    intro path content own member
    obtain ⟨place, named, stands⟩ := done.stands _ member
    exact ⟨place, done.found linkless ending down own named stands⟩
  cases hasMap : output.sourceMap with
  | none =>
    refine ⟨held _ _ (.inl rfl) ?_, fun map impossible => ?_⟩
    · rw [Errand.filesOf, hasMap]
      exact List.mem_singleton.mpr rfl
    · cases impossible
  | some map =>
    refine ⟨held _ _ (.inl rfl) ?_, fun map' same => ?_⟩
    · rw [Errand.filesOf, hasMap, Option.isSome_some, ← withMapComment_eq]
      exact List.mem_cons_of_mem _ (List.mem_singleton.mpr rfl)
    · cases same
      refine held _ _ (.inr rfl) ?_
      rw [Errand.filesOf, hasMap]
      exact List.mem_cons_self

/-- The files for an input are there after a run: its code file holds the code of the text that the input had
before, and with source maps its map file holds the map of the same compilation. -/
def Input.Delivered (input : Input) (settings : Settings) (outDir : String) (cwd : Location)
    (before after : FileTree) : Prop :=
  ∃ source output,
    before.readText cwd input.path = .ok source ∧
    compile source (settings.optionsFor input.path) = .ok output ∧
    after.Holds cwd (input.destination outDir)
      (codeText settings.options.sourceMap output.code (input.destination outDir)).toUTF8 ∧
    (settings.options.sourceMap = true → ∃ map, output.sourceMap = some map ∧
      after.Holds cwd (mapPath (input.destination outDir)) map.toUTF8)

/-- An input whose errand is done is delivered. -/
theorem Writes.delivered {settings : Settings} {cwd : Location} {t t' : FileTree} {input : Input}
    {outDir source : String} {output : Output} (writes : Writes settings cwd t input outDir source output)
    {front : List (List Char)} {code : List Char} (codeAt : CodeAt input front code) (linkless : t'.Linkless)
    (done : (errandOf settings cwd t input).Done t') : input.Delivered settings outDir cwd t t' := by
  have maps : output.sourceMap.isSome = settings.options.sourceMap := by
    rw [compile_sourceMap writes.compiled, optionsFor_sourceMap writes.outDir_eq]
  rw [writes.errand_eq] at done
  obtain ⟨codeHolds, mapHolds⟩ :=
    done.holds linkless (codeAt.ending outDir) (nameOf_ne_dotDot (codeAt.proper code (by simp)))
  rw [maps] at codeHolds
  refine ⟨source, output, writes.read, writes.compiled, codeHolds, fun on => ?_⟩
  rw [on, Option.isSome_iff_exists] at maps
  obtain ⟨map, hasMap⟩ := maps
  exact ⟨map, hasMap, mapHolds map hasMap⟩

/-- **A run on directories without failures leaves the output of every input**, whatever the order of its
steps. -/
theorem runInOrder_delivers {w : World} {args : Arguments} {settings : Settings} {inputs : List Input}
    {outDir : String} {schedule : Nat → List Nat} {summary : Summary} (sound : w.tree.Sound)
    (linkless : w.tree.Linkless) (directories : ∀ path ∈ args.inputs, w.tree.isDirectory w.cwd path = true)
    (collects : w.Collects args settings inputs) (out : settings.outDir = some outDir)
    (perm : (schedule inputs.length).Perm (List.range inputs.length))
    (done : (w.runInOrder args schedule).result = .ok summary) (fine : summary.failed = 0) :
    ∀ input ∈ inputs, input.Delivered settings outDir w.cwd w.tree (w.runInOrder args schedule).tree := by
  intro input member
  have gathered := collects.gathered sound linkless directories
  obtain ⟨i, counted, rfl⟩ := List.mem_iff_getElem.mp member
  have given : inputs[i]? = some inputs[i] := List.getElem?_eq_getElem counted
  obtain ⟨first, later, order_eq, early, late⟩ := turn_of_perm perm counted
  obtain ⟨log, report_eq⟩ := collects.runInOrder_eq
  rw [report_eq schedule] at done
  rw [report_eq schedule, World.report_tree, order_eq]
  -- The outcome of the input is among those that are counted.
  have fineHere : (processFile settings w.cwd inputs[i]
      (processSteps settings w.cwd inputs first w.tree).1).2.failed = false := by
    refine World.failed_of_report done fine _ ?_
    rw [order_eq]
    exact List.mem_filterMap.mpr ⟨i, List.mem_range.mpr counted, lookup_processSteps given early later w.tree⟩
  obtain ⟨source, output, writes, carried⟩ :=
    done_processSteps gathered out given late fineHere
  obtain ⟨_, _, front, last, collected⟩ := gathered.collected given
  obtain ⟨code, codeAt⟩ := collected.codeAt
  have grown : w.tree.Grown (processSteps settings w.cwd inputs (first ++ i :: later) w.tree).1 :=
    gathered.grown_processSteps (.refl linkless) _
  exact writes.delivered codeAt grown.linkless carried

/-! ### Two directories of sources -/

/-- How many files fail does not depend on the log, nor on what is left in the end. -/
theorem World.Collects.failed?_eq {w : World} {args : Arguments} {settings : Settings} {inputs : List Input}
    (collects : w.Collects args settings inputs) (schedule : Nat → List Nat) :
    (w.runInOrder args schedule).failed? =
      (w.report args {} (processAll settings w.cwd inputs (schedule inputs.length) w.tree).2 []).failed? := by
  obtain ⟨log, report_eq⟩ := collects.runInOrder_eq
  rw [report_eq]
  unfold RunReport.failed?
  rw [← World.report_result (w := w) args w.tree]

/-- A working directory with sources in the directories `s` and `p`, one of them further down. -/
def twoRoots : World where
  tree := ⟨[(["w"].map Text.bytesOf, .directory), (["w", "s"].map Text.bytesOf, .directory),
    (["w", "s", "a.ts"].map Text.bytesOf, .file "let x: number = 1;\n".toUTF8),
    (["w", "s", "d"].map Text.bytesOf, .directory),
    (["w", "s", "d", "b.mts"].map Text.bytesOf, .file "export type T = string;\nexport const y = 2 as T;".toUTF8),
    (["w", "p"].map Text.bytesOf, .directory),
    (["w", "p", "c.cts"].map Text.bytesOf, .file "function f(z?: number) \x7b return z!; \x7d\n".toUTF8)]⟩
  cwd := ["w"].map Text.bytesOf

/-- The sources in `s` and `p`. -/
def rootInputs : List Input := [⟨"s/a.ts", "a.ts"⟩, ⟨"s/d/b.mts", "d/b.mts"⟩, ⟨"p/c.cts", "c.cts"⟩]

/-- Compile `s` and `p` into `o`, with source maps. -/
def intoO : Arguments := { inputs := ["s", "p"], outDir := some "o", sourceMap := true }

/-- Compile into the directory `o`, with source maps. -/
def withMaps : Settings := { options := { sourceMap := true }, outDir := some "o" }

/-- The order from the last input to the first. -/
def backwards (n : Nat) : List Nat := (List.range n).reverse

theorem twoRoots_sound : twoRoots.tree.Sound := sound_of_entries (by decide +kernel)

theorem twoRoots_linkless : twoRoots.tree.Linkless := linkless_of_entries (by decide +kernel)

/-- The searches of `s` and `p` come to the three files, in order. -/
theorem twoRoots_searched (ignore : Glob.Patterns) :
    collect twoRoots.tree twoRoots.cwd ignore ["s", "p"] =
      [("s", [["a.ts"], ["d", "b.mts"]]), ("p", [["c.cts"]])].foldl (fun h (root, listed) =>
        h.andThen ((listed.map (·.map Text.bytesOf)).foldl
          (fun h names => h.andThen (harvestFile ignore root names)) {})) {} := by
  have first : twoRoots.tree.filesBelow (["w", "s"].map Text.bytesOf) =
      [["a.ts"], ["d", "b.mts"]].map (·.map Text.bytesOf) :=
    filesBelow_of_entries twoRoots_sound (by decide +kernel) (by decide +kernel) (by decide +kernel)
  have second : twoRoots.tree.filesBelow (["w", "p"].map Text.bytesOf) = [["c.cts"]].map (·.map Text.bytesOf) :=
    filesBelow_of_entries twoRoots_sound (by decide +kernel) (by decide +kernel) (by decide +kernel)
  rw [collect, List.foldl_cons, List.foldl_cons, harvestPath_of_filesBelow (by decide +kernel) first ignore,
    harvestPath_of_filesBelow (by decide +kernel) second ignore]
  rfl

theorem twoRoots_collects : twoRoots.Collects intoO withMaps rootInputs := by
  refine .of_plan rfl (by decide +kernel) rfl rfl ?_
  unfold World.plan
  simp only [intoO, twoRoots_searched]
  decide +kernel

/-- Both directories are compiled, the last source first. -/
theorem twoRoots_delivered :
    (⟨"s/a.ts", "a.ts"⟩ : Input).Delivered withMaps "o" twoRoots.cwd twoRoots.tree
        (twoRoots.runInOrder intoO backwards).tree ∧
      (⟨"s/d/b.mts", "d/b.mts"⟩ : Input).Delivered withMaps "o" twoRoots.cwd twoRoots.tree
        (twoRoots.runInOrder intoO backwards).tree ∧
      (⟨"p/c.cts", "c.cts"⟩ : Input).Delivered withMaps "o" twoRoots.cwd twoRoots.tree
        (twoRoots.runInOrder intoO backwards).tree := by
  have ended : (twoRoots.runInOrder intoO backwards).failed? = some 0 := by
    rw [twoRoots_collects.failed?_eq]
    decide +kernel
  obtain ⟨summary, done, fine⟩ := RunReport.exists_of_failed? ended
  have each := runInOrder_delivers twoRoots_sound twoRoots_linkless (by decide +kernel) twoRoots_collects rfl
    (List.reverse_perm _) done fine
  exact ⟨each _ (by decide), each _ (by decide), each _ (by decide)⟩

end Detype
