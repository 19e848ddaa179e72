import Detype.Proofs.Files.Listing
import Detype.Proofs.Run.Accounts

/-
**Running a command again.**

What a run without failures leaves is what the same command would leave once more. The files it wrote have no names
of source files, so the second search finds the inputs of the first, also where the output directory is in a
directory that is searched, and writing an output over itself changes nothing.

* `Supplied` — how a run changes a tree; `Gathered.supplied` — every run changes its tree so.
* `harvestFile_of_not_source` — a file without the name of a source contributes nothing to a search;
  `harvestPath_again` — a search of a directory finds what it found before the run.
* `collect_again` — a second search finds what the first found.
* `loadProject_again` — a project file that the run did not write is read as before.
* `Gathered.again` — steps on what a run left end as they did, and change nothing.
* `runInOrder_again` — the second run of a command repeats the first.
-/

namespace Detype

open FileTree

/-! ### What a run changes -/

/-- A tree to which steps were applied: a place is as it was, or it was free and is a directory, or it has a file
that the errand of an input puts there. -/
def Supplied (settings : Settings) (cwd : Location) (inputs : List Input) (t t' : FileTree) : Prop :=
  ∀ p, t'.get? p = t.get? p ∨ t.get? p = none ∧ t'.get? p = some .directory ∨
    t.get? p ≠ some .directory ∧ ∃ input ∈ inputs, ∃ content,
      (.ok p, content) ∈ (errandOf settings cwd t input).files ∧ t'.get? p = some (.file content)

section Changes

variable {t t' : FileTree} {settings : Settings} {cwd : Location} {inputs : List Input}

/-- A step changes a tree as steps do. -/
theorem Supplied.run (supplied : Supplied settings cwd inputs t t') (linkless : t'.Linkless) {input : Input}
    (listed : input ∈ inputs) : Supplied settings cwd inputs t ((errandOf settings cwd t input).run t').1 := by
  intro p
  rcases (errandOf settings cwd t input).run_get? linkless p with same | ⟨free, made⟩ | ⟨plain, content, member, put⟩
  · rw [same]
    exact supplied p
  · rcases supplied p with same | ⟨_, directory⟩ | ⟨_, _, _, _, _, file⟩
    · exact Or.inr (Or.inl ⟨same ▸ free, made⟩)
    · rw [directory] at free
      cases free
    · rw [file] at free
      cases free
  · refine Or.inr (Or.inr ⟨fun directory => plain ?_, input, listed, content, member, put⟩)
    rcases supplied p with same | ⟨free, _⟩ | ⟨other, _⟩
    · rw [same, directory]
    · rw [directory] at free
      cases free
    · exact absurd directory other

/-- **Every run changes its tree so**, whatever the order of its steps. -/
theorem Gathered.supplied (gathered : Gathered t cwd settings inputs) (order : List Nat) :
    Supplied settings cwd inputs t (processSteps settings cwd inputs order t).1 := by
  refine (processSteps_keeps (P := fun t' => t.Grown t' ∧ Supplied settings cwd inputs t t')
    (fun i _ input given t' keeps => ?_) ⟨.refl gathered.linkless, fun _ => Or.inl rfl⟩).2
  obtain ⟨tree_eq, grown⟩ := gathered.step given keeps.1
  rw [tree_eq]
  exact ⟨grown, keeps.2.run keeps.1.linkless (List.mem_of_getElem? given)⟩

/-- A tree to which steps were applied has the files and directories from before. -/
theorem Supplied.onto (supplied : Supplied settings cwd inputs t t') : t.Onto t' := by
  refine ⟨fun p directory => ?_, fun p file => ?_⟩
  · rcases supplied p with same | ⟨free, _⟩ | ⟨other, _⟩
    · rw [same, directory]
    · rw [directory] at free
      cases free
    · exact absurd directory other
  · obtain ⟨content, stands⟩ := isFileAt_eq_true.mp file
    rcases supplied p with same | ⟨free, _⟩ | ⟨_, _, _, content', _, put⟩
    · exact isFileAt_eq_true.mpr ⟨content, by rw [same, stands]⟩
    · rw [stands] at free
      cases free
    · exact isFileAt_eq_true.mpr ⟨content', put⟩

theorem Supplied.keeps (supplied : Supplied settings cwd inputs t t') (linkless : t.Linkless) : t.Keeps t' := by
  refine ⟨fun {p entry} stands other => ?_⟩
  cases entry with
  | file content => exact absurd rfl (other content)
  | directory => exact supplied.onto.directories p stands
  | link target => exact absurd stands (linkless _ _)

end Changes

/-! ### What a second search finds -/

/-- **A file without the name of a source contributes nothing to a search**, if its path can be spelled. -/
theorem harvestFile_of_not_source {ignore : Glob.Patterns} {root : String} {front : Location} {name : List Char}
    (textual : ∀ n ∈ front, (Text.textOf? n).isSome = true) (other : isSourceFile (String.ofList name) = false) :
    harvestFile ignore root (front ++ [nameOf name]) = {} := by
  obtain ⟨texts, spelled⟩ := mapM_textOf? textual
  have whole : (front ++ [nameOf name]).mapM Text.textOf? = some (texts ++ [String.ofList name]) := by
    rw [List.mapM_append, spelled, List.mapM_cons, textOf?_nameOf]
    rfl
  unfold harvestFile
  rw [whole]
  dsimp only
  rw [List.getLast?_concat, Option.getD_some, other]
  rfl

theorem Harvest.andThen_empty (h : Harvest) : h.andThen {} = h := by
  unfold Harvest.andThen
  split
  · rfl
  · next fine =>
    obtain ⟨inputs, ignored, failure⟩ := h
    cases failure with
    | none => simp
    | some e => exact absurd rfl fine

/-- Parts that find nothing can be left out of a search. -/
theorem foldl_andThen_filter {α : Type} {find : α → Harvest} {p : α → Bool} {xs : List α}
    (nothing : ∀ x ∈ xs, p x = false → find x = {}) (before : Harvest) :
    (xs.filter p).foldl (fun h x => h.andThen (find x)) before = xs.foldl (fun h x => h.andThen (find x)) before := by
  induction xs generalizing before with
  | nil => rfl
  | cons x xs ih =>
    have rest := fun before => ih (fun y member => nothing y (List.mem_cons_of_mem x member)) before
    cases kept : p x with
    | true => rw [List.filter_cons_of_pos kept, List.foldl_cons, List.foldl_cons, rest]
    | false =>
      rw [List.filter_cons_of_neg (by simp [kept]), List.foldl_cons, nothing x List.mem_cons_self kept,
        Harvest.andThen_empty, rest]

theorem foldl_andThen_congr {α : Type} {find find' : α → Harvest} {xs : List α} (same : ∀ x ∈ xs, find x = find' x)
    (before : Harvest) :
    xs.foldl (fun h x => h.andThen (find x)) before = xs.foldl (fun h x => h.andThen (find' x)) before := by
  induction xs generalizing before with
  | nil => rfl
  | cons x xs ih =>
    rw [List.foldl_cons, List.foldl_cons, same x List.mem_cons_self]
    exact ih (fun y member => same y (List.mem_cons_of_mem x member)) _

section Search

variable {t t' : FileTree} {settings : Settings} {cwd : Location} {inputs : List Input} {outDir : String}

/-- The files of a run are below the output directory and have no names of source files. -/
theorem Gathered.place_of_file (gathered : Gathered t cwd settings inputs) (out : settings.outDir = some outDir)
    {input : Input} (listed : input ∈ inputs) {p : Location} {content : ByteArray}
    (member : (.ok p, content) ∈ (errandOf settings cwd t input).files) :
    ∃ (front : List (List Char)) (name : List Char), isSourceFile (String.ofList name) = false ∧
      p = delivery cwd outDir ++ (front.map nameOf ++ [nameOf name]) := by
  obtain ⟨_, _, front, _, collected⟩ := gathered.below input listed
  obtain ⟨code, codeAt⟩ := collected.codeAt
  rcases collected.processFile_cases gathered.sound gathered.linkless settings with
    ⟨idle, _⟩ | ⟨outDir', source, output, writes⟩
  · rw [idle] at member
    cases member
  · have same : outDir = outDir' := Option.some.inj (out.symm.trans writes.outDir_eq)
    subst same
    rw [writes.errand_eq] at member
    obtain ⟨name, kind, there⟩ := codeAt.mem_files member
    rw [List.map_append, List.map_singleton] at there
    refine ⟨front, name, ?_, there⟩
    rcases kind with rfl | rfl
    · exact codeAt.not_isSource.1
    · exact codeAt.not_isSource.2

/-- From a directory that is searched, the names that lead to a file of the run can be spelled if those that lead to
the output directory can. -/
theorem spelled_of_place {place names : Location} {front : List (List Char)} {name : List Char} (named : names ≠ [])
    (textual : ∀ below, delivery cwd outDir = place ++ below → ∀ n ∈ below, (Text.textOf? n).isSome = true)
    (there : place ++ names = delivery cwd outDir ++ (front.map nameOf ++ [nameOf name])) :
    ∃ above, names = above ++ [nameOf name] ∧ ∀ n ∈ above, (Text.textOf? n).isSome = true := by
  have mapped : ∀ n ∈ front.map nameOf, (Text.textOf? n).isSome = true := by
    intro n member
    obtain ⟨p, _, rfl⟩ := List.mem_map.mp member
    rw [textOf?_nameOf]
    rfl
  rcases List.append_eq_append_iff.mp there with ⟨below, delivered, rest⟩ | ⟨beyond, _, rest⟩
  · -- The output directory is in the directory that is searched.
    refine ⟨below ++ front.map nameOf, by rw [rest, List.append_assoc], fun n member => ?_⟩
    rcases List.mem_append.mp member with early | late
    · exact textual below delivered n early
    · exact mapped n late
  · -- The directory that is searched is in the output directory.
    obtain ⟨above, last, split⟩ := List.eq_nil_or_concat names |>.resolve_left named
    rw [List.concat_eq_append] at split
    subst split
    rw [← List.append_assoc] at rest
    obtain ⟨fronts, lasts⟩ := List.append_inj' rest rfl
    refine ⟨above, by rw [List.cons.inj lasts |>.1], fun n member => mapped n ?_⟩
    rw [fronts]
    exact List.mem_append_right _ member

/-- **A search of a directory finds what it found before the run.** -/
theorem harvestPath_again (gathered : Gathered t cwd settings inputs) (out : settings.outDir = some outDir)
    (supplied : Supplied settings cwd inputs t t') {ignore : Glob.Patterns} {root : String} {place : Location}
    (found : t.entryAt? cwd root = some (place, .directory))
    (textual : ∀ below, delivery cwd outDir = place ++ below → ∀ n ∈ below, (Text.textOf? n).isSome = true) :
    harvestPath t' cwd ignore root = harvestPath t cwd ignore root := by
  unfold harvestPath
  rw [found, (supplied.keeps gathered.linkless).entryAt?_directory found]
  dsimp only
  rw [← filter_filesBelow gathered.sound gathered.linkless supplied.onto place, foldl_andThen_filter]
  intro names member new
  obtain ⟨named, content', stands⟩ := mem_filesBelow member
  rcases supplied (place ++ names) with same | ⟨_, directory⟩ | ⟨_, input, listed, content, put, _⟩
  · have old := isFileAt_eq_true.mpr ⟨content', same.symm.trans stands⟩
    rw [new] at old
    cases old
  · rw [stands] at directory
    cases directory
  · obtain ⟨front, name, other, there⟩ := gathered.place_of_file out listed put
    obtain ⟨above, rfl, spelled⟩ := spelled_of_place named textual there
    exact harvestFile_of_not_source spelled other

/-- **A second search finds what the first found.** -/
theorem collect_again (gathered : Gathered t cwd settings inputs) (out : settings.outDir = some outDir)
    (supplied : Supplied settings cwd inputs t t') {paths : List String}
    (directories : ∀ path ∈ paths, t.isDirectory cwd path = true)
    (textual : ∀ root ∈ paths, ∀ place below, t.entryAt? cwd root = some (place, .directory) →
      delivery cwd outDir = place ++ below → ∀ n ∈ below, (Text.textOf? n).isSome = true) (ignore : Glob.Patterns) :
    collect t' cwd ignore paths = collect t cwd ignore paths := by
  refine foldl_andThen_congr (fun path listed => ?_) {}
  have directory := directories path listed
  unfold isDirectory at directory
  split at directory
  · next place found =>
    exact harvestPath_again gathered out supplied found fun below => textual path listed place below found
  · cases directory

end Search

/-! ### The project file -/

namespace FileTree

variable {t t' : FileTree} {cwd : Location} {path : String}

theorem file_of_readText {text : String} (read : t.readText cwd path = .ok text) :
    ∃ place content, t.entryAt? cwd path = some (place, .file content) := by
  unfold readText at read
  unfold entryAt?
  cases located : t.locate cwd path with
  | error e =>
    rw [located] at read
    cases read
  | ok target =>
    rw [located] at read
    cases target with
    | found place entry =>
      cases entry with
      | file content => exact ⟨place, content, rfl⟩
      | directory | link _ => cases read
    | vacant => cases read

theorem readText_congr {place : Location} {entry : Entry} (found : t.entryAt? cwd path = some (place, entry))
    (found' : t'.entryAt? cwd path = some (place, entry)) : t'.readText cwd path = t.readText cwd path := by
  unfold readText
  rw [entryAt?_eq_some.mp found, entryAt?_eq_some.mp found']

end FileTree

/-- The path of the project file of a run, if there is one. -/
def Arguments.projectPath (args : Arguments) : String := args.project.getD World.projectFile

namespace World

variable {w : World} {tree : FileTree} {path : String} {project : Project}

theorem readText_of_loadProject (loaded : w.loadProject path = .ok project) :
    ∃ text, w.tree.readText w.cwd path = .ok text := by
  unfold loadProject at loaded
  cases read : w.tree.readText w.cwd path with
  | error e =>
    rw [read] at loaded
    cases loaded
  | ok text => exact ⟨text, rfl⟩

/-- **A project file that stands where it stood is read as before.** -/
theorem loadProject_again (loaded : w.loadProject path = .ok project) (keeps : w.tree.Keeps tree)
    (stands : ∀ place content, w.tree.entryAt? w.cwd path = some (place, .file content) →
      tree.get? place = some (.file content)) :
    { w with tree }.loadProject path = .ok project ∧ tree.exists_ w.cwd path = true := by
  obtain ⟨text, read⟩ := readText_of_loadProject loaded
  obtain ⟨place, content, found⟩ := file_of_readText read
  have found' := keeps.entryAt?_file found (stands place content found)
  have same : { w with tree }.loadProject path = w.loadProject path := by
    unfold loadProject
    dsimp only
    rw [readText_congr found found']
  have present : (tree.entryAt? w.cwd path).isSome = true := by
    rw [found']
    rfl
  exact ⟨same.trans loaded, present⟩

/-- The project file of a run is found again. -/
theorem findProject_again {args : Arguments} {found : Option (String × Project)}
    (before : w.findProject args = .ok found) (keeps : w.tree.Keeps tree)
    (stands : ∀ place content, w.tree.entryAt? w.cwd args.projectPath = some (place, .file content) →
      tree.get? place = some (.file content))
    (absent : args.project = none → w.tree.exists_ w.cwd projectFile = false → tree.exists_ w.cwd projectFile = false) :
    { w with tree }.findProject args = .ok found := by
  unfold Arguments.projectPath at stands
  unfold findProject at before ⊢
  cases named : args.project with
  | some path =>
    rw [named] at before stands
    dsimp only at before ⊢
    cases loaded : w.loadProject path with
    | error e =>
      rw [loaded] at before
      cases before
    | ok project =>
      rw [(loadProject_again loaded keeps stands).1]
      rw [loaded] at before
      exact before
  | none =>
    rw [named] at before stands
    dsimp only at before ⊢
    cases present : w.tree.exists_ w.cwd projectFile with
    | false =>
      rw [present, if_neg Bool.false_ne_true] at before
      rw [absent named present, if_neg Bool.false_ne_true]
      exact before
    | true =>
      rw [present, if_pos rfl] at before
      cases loaded : w.loadProject projectFile with
      | error e =>
        rw [loaded] at before
        cases before
      | ok project =>
        obtain ⟨loaded', present'⟩ := loadProject_again loaded keeps stands
        rw [present', if_pos rfl, loaded']
        rw [loaded] at before
        exact before

end World

/-! ### Steps once more -/

theorem FileTree.Grown.congr {t t' t'' : FileTree} (grown : t.Grown t') (same : ∀ p, t''.get? p = t'.get? p) :
    t.Grown t'' := by
  refine ⟨fun p target => ?_, fun p directory => ?_, fun above last content isSource stands => ?_⟩
  · rw [same]
    exact grown.linkless p target
  · rw [same, grown.directories p directory]
  · rw [same, grown.sources above last content isSource stands]

section Steps

variable {t : FileTree} {settings : Settings} {cwd : Location} {inputs : List Input} {outDir : String}

/-- What a run without failures leaves of an input: the errand of the input is done. -/
structure Settled (settings : Settings) (cwd : Location) (t t' : FileTree) (input : Input) (outDir source : String)
    (output : Output) : Prop where
  writes : Writes settings cwd t input outDir source output
  nameable : (errandOf settings cwd t input).fault = none
  done : (errandOf settings cwd t input).Done t'

/-- **A run without failures settles every input.** -/
theorem Gathered.settled (gathered : Gathered t cwd settings inputs) (out : settings.outDir = some outDir)
    {order : List Nat} (perm : order.Perm (List.range inputs.length))
    (fine : ∀ o ∈ (processAll settings cwd inputs order t).2, o.failed = false) {i : Nat} {input : Input}
    (given : inputs[i]? = some input) :
    ∃ source output, Settled settings cwd t (processSteps settings cwd inputs order t).1 input outDir source output ∧
      (processAll settings cwd inputs order t).2[i]? =
        some (.ofWriting input.path (input.destination outDir) output (.ok ())) := by
  obtain ⟨_, _, _, _, collected⟩ := gathered.collected given
  obtain ⟨first, later, split, early, late⟩ := turn_of_perm perm (List.getElem?_eq_some_iff.mp given).1
  have turn := @getElem?_processAll settings cwd inputs order perm t i (List.getElem?_eq_some_iff.mp given).1
  rw [split, lookup_processSteps given early] at turn
  rw [split] at fine
  have fineHere := fine _ (List.mem_of_getElem? turn)
  obtain ⟨source, output, writes, done⟩ := done_processSteps gathered out given late fineHere
  have grown := gathered.grown_processSteps (.refl gathered.linkless) first
  rw [collected.processFile_writes gathered.sound gathered.linkless writes grown] at fineHere turn
  have ran := ofWriting_failed fineHere
  rw [ran] at turn
  rw [split]
  exact ⟨source, output, ⟨writes, Errand.fault_of_run ran, done⟩, turn⟩

/-- **A step on what a run left changes nothing** and succeeds. -/
theorem Collected.processFile_again {input : Input} {root : String} {place : Location} {front : List (List Char)}
    {last : List Char} (collected : Collected t cwd input root place front last) (sound : t.Sound)
    (linkless : t.Linkless) {t' t'' : FileTree} {source : String} {output : Output}
    (settled : Settled settings cwd t t' input outDir source output) (grown : t.Grown t')
    (same : ∀ p, t''.get? p = t'.get? p) :
    (processFile settings cwd input t'').2 = .ofWriting input.path (input.destination outDir) output (.ok ()) ∧
      ∀ p, (processFile settings cwd input t'').1.get? p = t'.get? p := by
  obtain ⟨ran, kept⟩ := (settled.done.congr same).run_again settled.nameable
  rw [collected.processFile_writes sound linkless settled.writes (grown.congr same), ran]
  exact ⟨rfl, fun p => (kept p).trans (same p)⟩

/-- **Steps on what a run left end as they did, and change nothing.** -/
theorem Gathered.again (gathered : Gathered t cwd settings inputs) (out : settings.outDir = some outDir)
    {order order' : List Nat} (perm : order.Perm (List.range inputs.length))
    (perm' : order'.Perm (List.range inputs.length))
    (fine : ∀ o ∈ (processAll settings cwd inputs order t).2, o.failed = false) :
    (processAll settings cwd inputs order' (processSteps settings cwd inputs order t).1).2 =
        (processAll settings cwd inputs order t).2 ∧
      ∀ p, (processAll settings cwd inputs order' (processSteps settings cwd inputs order t).1).1.get? p =
        (processSteps settings cwd inputs order t).1.get? p := by
  have settled := fun {i input} (given : inputs[i]? = some input) => gathered.settled out perm fine given
  have first := length_processAll_eq settings cwd perm t
  have grown : t.Grown (processSteps settings cwd inputs order t).1 :=
    gathered.grown_processSteps (.refl gathered.linkless) order
  generalize (processSteps settings cwd inputs order t).1 = t' at settled grown ⊢
  have keeps : ∀ order'' p, (processSteps settings cwd inputs order'' t').1.get? p = t'.get? p := by
    intro order''
    refine processSteps_keeps (P := fun t'' => ∀ p, t''.get? p = t'.get? p) (fun i _ input given t'' same => ?_)
      fun _ => rfl
    obtain ⟨_, _, _, _, collected⟩ := gathered.collected given
    obtain ⟨source, output, left, _⟩ := settled given
    exact (collected.processFile_again gathered.sound gathered.linkless left grown same).2
  refine ⟨List.ext_getElem? fun i => ?_, keeps order'⟩
  cases given : inputs[i]? with
  | none =>
    have short := List.getElem?_eq_none_iff.mp given
    rw [List.getElem?_eq_none (by rw [length_processAll_eq settings cwd perm']; exact short),
      List.getElem?_eq_none (by rw [first]; exact short)]
  | some input =>
    obtain ⟨_, _, _, _, collected⟩ := gathered.collected given
    obtain ⟨source, output, left, outcome⟩ := settled given
    rw [outcome, getElem?_processAll_eq perm' t' given]
    exact congrArg some
      (collected.processFile_again gathered.sound gathered.linkless left grown (keeps _)).1

/-- The paths to which the output of an input is written. -/
def Input.outputs (input : Input) (settings : Settings) (outDir : String) : List String :=
  input.destination outDir :: if settings.options.sourceMap then [mapPath (input.destination outDir)] else []

/-- **The files of an errand that is done are found by the paths of its output.** -/
theorem Settled.entryAt?_file {t' : FileTree} {input : Input} {source : String} {output : Output}
    (settled : Settled settings cwd t t' input outDir source output) {front : List (List Char)} {code : List Char}
    (codeAt : CodeAt input front code) (linkless : t'.Linkless) {place : Location} {content : ByteArray}
    (member : (.ok place, content) ∈ (errandOf settings cwd t input).files) :
    ∃ path ∈ input.outputs settings outDir, t'.entryAt? cwd path = some (place, .file content) := by
  have done := settled.done
  rw [settled.writes.errand_eq] at done member
  obtain ⟨_, same, stands⟩ := done.stands _ member
  cases same
  have found := @Errand.Done.found t' linkless cwd (input.destination outDir) _ _ (codeAt.ending outDir)
    (nameOf_ne_dotDot (codeAt.proper code (by simp))) output done
  rw [Errand.files_ofOutput, Errand.filesOf] at member
  split at member
  · obtain ⟨named, _⟩ := Prod.mk.inj (List.mem_singleton.mp member)
    exact ⟨_, List.mem_cons_self, found (.inl rfl) named.symm stands⟩
  · next map hasMap =>
    have listed : mapPath (input.destination outDir) ∈ input.outputs settings outDir := by
      have maps := compile_sourceMap settled.writes.compiled
      rw [optionsFor_sourceMap settled.writes.outDir_eq, hasMap] at maps
      rw [Input.outputs, ← maps]
      exact List.mem_cons_of_mem _ List.mem_cons_self
    rw [List.mem_cons, List.mem_singleton] at member
    rcases member with isMap | isCode
    · exact ⟨_, listed, found (.inr rfl) (Prod.mk.inj isMap).1.symm stands⟩
    · exact ⟨_, List.mem_cons_self, found (.inl rfl) (Prod.mk.inj isCode).1.symm stands⟩

end Steps

/-! ### The second run -/

namespace World

/-- What a run leaves for the next one to find. -/
def after (w : World) (args : Arguments) (schedule : Nat → List Nat) : World :=
  { w with tree := (w.runInOrder args schedule).tree }

/-- A run on directories into an output directory that ends without failures, and whose project file, if there is
one, is none of the files that it writes. -/
structure Succeeds (w : World) (args : Arguments) (settings : Settings) (inputs : List Input) (outDir : String)
    (schedule : Nat → List Nat) (summary : Summary) : Prop where
  sound : w.tree.Sound
  linkless : w.tree.Linkless
  directories : ∀ path ∈ args.inputs, w.tree.isDirectory w.cwd path = true
  collects : w.Collects args settings inputs
  out : settings.outDir = some outDir
  perm : (schedule inputs.length).Perm (List.range inputs.length)
  done : (w.runInOrder args schedule).result = .ok summary
  fine : summary.failed = 0
  spared : ∀ place content, w.tree.entryAt? w.cwd args.projectPath = some (place, .file content) →
    ∀ input ∈ inputs, ∀ path ∈ input.outputs settings outDir, ∀ entry,
      (w.after args schedule).tree.entryAt? w.cwd path ≠ some (place, entry)

/-- A run repeats an earlier one: it takes the same inputs, ends with the same summary and changes nothing. -/
structure Repeats (w : World) (args : Arguments) (settings : Settings) (inputs : List Input)
    (schedule : Nat → List Nat) (summary : Summary) : Prop where
  collects : w.Collects args settings inputs
  result : (w.runInOrder args schedule).result = .ok summary
  tree : ∀ p, (w.runInOrder args schedule).tree.get? p = w.tree.get? p

namespace Succeeds

variable {w : World} {args : Arguments} {settings : Settings} {inputs : List Input} {outDir : String}
  {schedule schedule' : Nat → List Nat} {summary : Summary}

theorem gathered (run : w.Succeeds args settings inputs outDir schedule summary) :
    Gathered w.tree w.cwd settings inputs := run.collects.gathered run.sound run.linkless run.directories

theorem tree_after (run : w.Succeeds args settings inputs outDir schedule summary) :
    (w.after args schedule).tree = (processSteps settings w.cwd inputs (schedule inputs.length) w.tree).1 := by
  obtain ⟨log, report_eq⟩ := run.collects.runInOrder_eq
  show (w.runInOrder args schedule).tree = _
  rw [report_eq, report_tree]
  rfl

theorem outcomes_fine (run : w.Succeeds args settings inputs outDir schedule summary) :
    ∀ o ∈ (processAll settings w.cwd inputs (schedule inputs.length) w.tree).2, o.failed = false := by
  obtain ⟨log, report_eq⟩ := run.collects.runInOrder_eq
  have done := run.done
  rw [report_eq] at done
  exact failed_of_report done run.fine

theorem supplied (run : w.Succeeds args settings inputs outDir schedule summary) :
    Supplied settings w.cwd inputs w.tree (w.after args schedule).tree :=
  run.tree_after ▸ run.gathered.supplied _

/-- The run leaves its project file as it was. -/
theorem project_stands (run : w.Succeeds args settings inputs outDir schedule summary) {place : Location}
    {content : ByteArray} (found : w.tree.entryAt? w.cwd args.projectPath = some (place, .file content)) :
    (w.after args schedule).tree.get? place = some (.file content) := by
  have stands := get?_of_entryAt? found
  rcases run.supplied place with same | ⟨free, _⟩ | ⟨_, input, listed, content', member, _⟩
  · rw [same, stands]
  · rw [stands] at free
    cases free
  · obtain ⟨i, given⟩ := List.getElem?_of_mem listed
    obtain ⟨source, output, settled, _⟩ := run.gathered.settled run.out run.perm run.outcomes_fine given
    obtain ⟨_, _, _, _, collected⟩ := run.gathered.collected given
    obtain ⟨code, codeAt⟩ := collected.codeAt
    have grown := run.gathered.grown_processSteps (.refl run.linkless) (schedule inputs.length)
    obtain ⟨path, written, leads⟩ := settled.entryAt?_file codeAt grown.linkless member
    rw [← run.tree_after] at leads
    exact absurd leads (run.spared place content found input listed path written _)

/-- The second run collects the inputs of the first. -/
theorem collects_again (run : w.Succeeds args settings inputs outDir schedule summary)
    (absent : args.project = none → w.tree.exists_ w.cwd projectFile = false →
      (w.after args schedule).tree.exists_ w.cwd projectFile = false)
    (textual : ∀ root ∈ args.inputs, ∀ place below, w.tree.entryAt? w.cwd root = some (place, .directory) →
      delivery w.cwd outDir = place ++ below → ∀ n ∈ below, (Text.textOf? n).isSome = true) :
    (w.after args schedule).Collects args settings inputs := by
  obtain ⟨project, found, resolved⟩ := run.collects.resolved
  obtain ⟨searched, planned⟩ := run.collects.planned
  have keeps := run.supplied.keeps run.linkless
  refine ⟨⟨project, findProject_again found keeps (fun _ _ => run.project_stands) absent, resolved⟩, run.collects.files,
    searched, ?_⟩
  have same := collect_again run.gathered run.out run.supplied run.directories textual
  have cwd_eq : (w.after args schedule).cwd = w.cwd := rfl
  rw [← planned]
  unfold plan
  simp only [cwd_eq, same]

end Succeeds

end World

/-- **The second run of a command repeats the first**, provided that the first makes nothing that is taken for a
project file, and that the names which lead from a directory that is searched to the output directory can be spelled. -/
theorem runInOrder_again {w : World} {args : Arguments} {settings : Settings} {inputs : List Input} {outDir : String}
    {schedule schedule' : Nat → List Nat} {summary : Summary}
    (run : w.Succeeds args settings inputs outDir schedule summary)
    (absent : args.project = none → w.tree.exists_ w.cwd World.projectFile = false →
      (w.after args schedule).tree.exists_ w.cwd World.projectFile = false)
    (textual : ∀ root ∈ args.inputs, ∀ place below, w.tree.entryAt? w.cwd root = some (place, .directory) →
      delivery w.cwd outDir = place ++ below → ∀ n ∈ below, (Text.textOf? n).isSome = true)
    (perm : (schedule' inputs.length).Perm (List.range inputs.length)) :
    (w.after args schedule).Repeats args settings inputs schedule' summary := by
  have collects := run.collects_again absent textual
  obtain ⟨log, report_eq⟩ := run.collects.runInOrder_eq
  obtain ⟨log', report_eq'⟩ := collects.runInOrder_eq
  obtain ⟨outcomes, kept⟩ := run.gathered.again run.out run.perm perm run.outcomes_fine
  rw [← run.tree_after] at outcomes kept
  refine ⟨collects, ?_, fun p => ?_⟩
  · have done := run.done
    rw [report_eq] at done
    have outcomes' : (processAll settings (w.after args schedule).cwd inputs (schedule' inputs.length)
        (w.after args schedule).tree).2 = (processAll settings w.cwd inputs (schedule inputs.length) w.tree).2 := outcomes
    rw [report_eq', ← done, outcomes']
    exact World.report_result args _ _ _ _ _ _
  · rw [report_eq', World.report_tree]
    exact kept p

/-! ### Runs without a project file -/

/-- A run without a project file succeeds if its summary says so. -/
theorem World.Succeeds.of_plan {w : World} {args : Arguments} {settings : Settings} {inputs : List Input}
    {outDir : String} {schedule : Nat → List Nat} (sound : w.tree.Sound) (linkless : w.tree.Linkless)
    (directories : ∀ path ∈ args.inputs, w.tree.isDirectory w.cwd path = true) (unnamed : args.project = none)
    (missing : w.tree.exists_ w.cwd World.projectFile = false) (collects : w.Collects args settings inputs)
    (out : settings.outDir = some outDir) (perm : (schedule inputs.length).Perm (List.range inputs.length))
    (ended : (w.runInOrder args schedule).failed? = some 0) :
    ∃ summary, w.Succeeds args settings inputs outDir schedule summary := by
  obtain ⟨summary, done, fine⟩ := RunReport.exists_of_failed? ended
  refine ⟨summary, sound, linkless, directories, collects, out, perm, done, fine, ?_⟩
  intro place content found
  rw [Arguments.projectPath, unnamed, Option.getD_none] at found
  rw [exists_, found] at missing
  cases missing

/-- Compile `s` and `p` into a directory below `s`, with source maps. -/
def intoSources : Arguments := { inputs := ["s", "p"], outDir := some "s/o", sourceMap := true }

theorem twoRoots_collects_below :
    twoRoots.Collects intoSources { options := { sourceMap := true }, outDir := some "s/o" } rootInputs := by
  refine .of_plan rfl (by decide +kernel) rfl rfl ?_
  unfold World.plan
  simp only [intoSources, twoRoots_searched]
  decide +kernel

/-- The outputs lie where sources are searched, and the second run takes the steps in another order. -/
theorem twoRoots_repeats :
    ∃ summary, (twoRoots.after intoSources backwards).Repeats intoSources
      { options := { sourceMap := true }, outDir := some "s/o" } rootInputs List.range summary := by
  have missing : twoRoots.tree.exists_ twoRoots.cwd World.projectFile = false := by decide +kernel
  have ended : (twoRoots.runInOrder intoSources backwards).failed? = some 0 := by
    rw [twoRoots_collects_below.failed?_eq]
    decide +kernel
  obtain ⟨summary, run⟩ := World.Succeeds.of_plan twoRoots_sound twoRoots_linkless (by decide +kernel) rfl missing
    twoRoots_collects_below rfl (List.reverse_perm _) ended
  refine ⟨summary, runInOrder_again run (fun _ _ => ?_) (fun root listed place below found delivered => ?_) (.refl _)⟩
  · rw [run.tree_after]
    decide +kernel
  · have first : twoRoots.tree.entryAt? twoRoots.cwd "s" = some (["w", "s"].map Text.bytesOf, .directory) := by
      decide +kernel
    have second : twoRoots.tree.entryAt? twoRoots.cwd "p" = some (["w", "p"].map Text.bytesOf, .directory) := by
      decide +kernel
    have there : delivery twoRoots.cwd "s/o" = ["w", "s"].map Text.bytesOf ++ ["o"].map Text.bytesOf := by
      decide +kernel
    rw [there] at delivered
    rcases List.mem_cons.mp listed with rfl | listed
    · rw [first] at found
      cases found
      rw [← List.append_cancel_left delivered]
      decide +kernel
    · rw [List.mem_singleton.mp listed, second] at found
      cases found
      -- No output is below `p`.
      exact absurd (List.append_inj delivered rfl).1 (by decide +kernel)

/-- A working directory with an empty source file in the directory `s`. -/
def oneSource : World where
  tree := ⟨[(["w"].map Text.bytesOf, .directory), (["w", "s"].map Text.bytesOf, .directory),
    (["w", "s", "a.ts"].map Text.bytesOf, .file .empty)]⟩
  cwd := ["w"].map Text.bytesOf

/-- Compile `s` into a directory that bears the name of the project file. -/
def intoProject : Arguments := { inputs := ["s"], outDir := some "tsconfig.json" }

/-- A working directory whose name is no text, and a directory `/s` with an empty source file. -/
def unspelled : World where
  tree := ⟨[([Text.bytesOf "w"], .directory), ([Text.bytesOf "w", [255]], .directory),
    ([Text.bytesOf "s"], .directory), (["s", "a.ts"].map Text.bytesOf, .file .empty)]⟩
  cwd := [Text.bytesOf "w", [255]]

/-- Compile `/s` and what is in the directory above into `o`. -/
def fromAbove : Arguments := { inputs := ["/s", ".."], outDir := some "o" }

/-- **Not every run is repeated by the next**: one makes a directory that is then taken for a project file, and one
writes a file whose path is no text, which ends the second search although the file is not a source. -/
theorem not_repeats :
    (∃ summary, oneSource.Succeeds intoProject { outDir := some "tsconfig.json" } [⟨"s/a.ts", "a.ts"⟩]
        "tsconfig.json" List.range summary ∧
      ¬ (oneSource.after intoProject List.range).Repeats intoProject { outDir := some "tsconfig.json" }
        [⟨"s/a.ts", "a.ts"⟩] List.range summary) ∧
    ∃ summary, unspelled.Succeeds fromAbove { outDir := some "o" } [⟨"/s/a.ts", "a.ts"⟩] "o" List.range summary ∧
      ¬ (unspelled.after fromAbove List.range).Repeats fromAbove { outDir := some "o" } [⟨"/s/a.ts", "a.ts"⟩]
        List.range summary := by
  have refuted : ∀ {w : World} {args : Arguments} {settings : Settings} {inputs : List Input} {summary : Summary},
      (w.runInOrder args List.range).failed? = none → ¬ w.Repeats args settings inputs List.range summary := by
    intro w args settings inputs summary failed repeats
    rw [RunReport.failed?, repeats.result] at failed
    cases failed
  constructor
  · have missing : oneSource.tree.exists_ oneSource.cwd World.projectFile = false := by decide +kernel
    have succeeds : ∃ summary, oneSource.Succeeds intoProject { outDir := some "tsconfig.json" }
        [⟨"s/a.ts", "a.ts"⟩] "tsconfig.json" List.range summary :=
      World.Succeeds.of_plan (sound_of_entries (by decide +kernel)) (linkless_of_entries (by decide +kernel))
        (by decide +kernel) rfl missing (.of_plan rfl missing rfl rfl (by decide +kernel)) rfl (.refl _)
        (by decide +kernel)
    exact succeeds.imp fun _ run => ⟨run, refuted (by decide +kernel)⟩
  · have missing : unspelled.tree.exists_ unspelled.cwd World.projectFile = false := by decide +kernel
    have succeeds : ∃ summary, unspelled.Succeeds fromAbove { outDir := some "o" } [⟨"/s/a.ts", "a.ts"⟩] "o"
        List.range summary :=
      World.Succeeds.of_plan (sound_of_entries (by decide +kernel)) (linkless_of_entries (by decide +kernel))
        (by decide +kernel) rfl missing (.of_plan rfl missing rfl rfl (by decide +kernel)) rfl (.refl _)
        (by decide +kernel)
    exact succeeds.imp fun _ run => ⟨run, refuted (by decide +kernel)⟩

end Detype
