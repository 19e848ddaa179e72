import Detype.Proofs.Run.Collected

/-
**One step of a run.**

Processing an input reads it, and then carries out an errand that the tree at the start of the run
determines: steps of a run change no source file and take no directory away, so each finds its input as it
was.

* `Ends` — the four ways in which a step ends; `ends_processFile` — a step ends in one of them.
* `FileTree.Grown` — a tree to which steps were applied.
* `Collected.readText_grown` — an input is read there as at the start.
* `errandOf` — what processing an input does to the tree.
* `Collected.processFile_cases` — processing an input is running its errand; the outcome tells how that went.
* `errandOf_apart` — the errands of two inputs share no file.
-/

namespace Detype

namespace FileTree

/-- A tree in which directories and source files are what they were in another. -/
structure Grown (t t' : FileTree) : Prop where
  linkless : t'.Linkless
  directories : ∀ p, t.get? p = some .directory → t'.get? p = some .directory
  sources : ∀ above last content, isSourceFile (String.ofList last) = true →
    t.get? (above ++ [nameOf last]) = some (.file content) →
      t'.get? (above ++ [nameOf last]) = some (.file content)

theorem Grown.refl {t : FileTree} (linkless : t.Linkless) : t.Grown t :=
  ⟨linkless, fun _ stands => stands, fun _ _ _ _ stands => stands⟩

end FileTree

open FileTree

/-! ### The ways in which a step ends -/

/-- How a step ends: the text cannot be read, or it does not compile, or its code goes to standard output, or it is
written as far as that goes. -/
inductive Ends (settings : Settings) (cwd : Location) (input : Input) (t : FileTree) : FileTree × FileOutcome → Prop
  | unread {e : FileError} : t.readText cwd input.path = .error e →
      Ends settings cwd input t (t, .failure input.path (.ofMessage ("failed to read file: " ++ e.message))
        ("failed to read: " ++ e.message))
  | uncompiled {source : String} {e : CompileError} : t.readText cwd input.path = .ok source →
      compile source (settings.optionsFor input.path) = .error e →
      Ends settings cwd input t (t, .failure input.path (.ofError e) ("transpile failed: " ++ e.message))
  | printed {source : String} {output : Output} : t.readText cwd input.path = .ok source →
      compile source (settings.optionsFor input.path) = .ok output → settings.outDir = none →
      Ends settings cwd input t (t, .printed input.path output)
  | written {source outDir : String} {output : Output} : t.readText cwd input.path = .ok source →
      compile source (settings.optionsFor input.path) = .ok output → settings.outDir = some outDir →
      Ends settings cwd input t ((writeOutput t cwd (input.destination outDir) output).1,
        .ofWriting input.path (input.destination outDir) output
          (writeOutput t cwd (input.destination outDir) output).2)

/-- **A step ends in one of the four ways.** -/
theorem ends_processFile (settings : Settings) (cwd : Location) (input : Input) (t : FileTree) :
    Ends settings cwd input t (processFile settings cwd input t) := by
  unfold processFile
  dsimp only
  split
  · next read => exact .unread read
  · next read =>
    split
    · next failed => exact .uncompiled read failed
    · next compiled =>
      split
      · next out => exact .printed read compiled out
      · next out => exact .written read compiled out

/-- A step ends as these ways say. -/
theorem Ends.processFile_eq {settings : Settings} {cwd : Location} {input : Input} {t : FileTree}
    {r : FileTree × FileOutcome} (ends : Ends settings cwd input t r) : processFile settings cwd input t = r := by
  cases ends with
  | unread read => simp only [processFile, read]
  | uncompiled read failed => simp only [processFile, read, failed]
  | printed read compiled out | written read compiled out => simp only [processFile, read, compiled, out]

/-! ### Reading -/

section Reading

variable {t t' : FileTree} {cwd : Location} {input : Input} {root : String} {place : Location}
  {front : List (List Char)} {last : List Char}

/-- **An input leads to one place at the start of a run and later.** -/
theorem Collected.locate_grown (collected : Collected t cwd input root place front last) (sound : t.Sound)
    (linkless : t.Linkless) (grown : t.Grown t') :
    t'.locate cwd input.path = t.locate cwd input.path := by
  obtain ⟨ending, absolute⟩ := Path.ending_foldl_join root collected.proper
  rw [← collected.path_eq] at ending absolute
  obtain ⟨_, walked⟩ := walk_of_entryAt? linkless collected.found
  have whole : route input.path = route root ++ (front ++ [last]).map nameOf := by
    rw [route, route, ending.names_eq]
    simp
  have down := dotDot_not_mem_map collected.proper
  obtain ⟨content, stands⟩ := collected.stands
  have alike : ∀ first, first <+: (front ++ [last]).map nameOf →
      t'.get? (place ++ first) = t.get? (place ++ first) := by
    rintro first ⟨more, split⟩
    by_cases ended : more = []
    · rw [ended, List.append_nil] at split
      rw [split, stands]
      rw [List.map_append, List.map_singleton, ← List.append_assoc] at stands ⊢
      exact grown.sources _ _ _ collected.isSource stands
    · rw [← split, ← List.append_assoc] at stands
      have directory := sound.above stands ended
      rw [directory, grown.directories _ directory]
  rw [locate_eq_walk grown.linkless cwd ending.tight true, locate_eq_walk linkless cwd ending.tight true, whole,
    start_of_isAbsolute absolute, walk_append walked, walk_append (walk_mono grown.directories walked),
    walk_congr down alike]

theorem Collected.readText_grown (collected : Collected t cwd input root place front last) (sound : t.Sound)
    (linkless : t.Linkless) (grown : t.Grown t') :
    t'.readText cwd input.path = t.readText cwd input.path := by
  unfold readText
  rw [collected.locate_grown sound linkless grown]

end Reading

/-! ### The errand of an input -/

/-- What processing an input does to the tree. -/
def errandOf (settings : Settings) (cwd : Location) (t : FileTree) (input : Input) : Errand :=
  match settings.outDir, t.readText cwd input.path with
  | some outDir, .ok source =>
    match compile source (settings.optionsFor input.path) with
    | .ok output => .ofOutput cwd (input.destination outDir) output
    | .error _ => .idle
  | _, _ => .idle

/-- The messages tell the errors apart. -/
theorem message_injective : Function.Injective FileError.message := by
  intro a b same
  cases a <;> cases b <;> first | rfl | exact absurd same (by decide)

/-- What is known of an input that has an errand: its text compiles, and the errand writes the output. -/
structure Writes (settings : Settings) (cwd : Location) (t : FileTree) (input : Input) (outDir source : String)
    (output : Output) : Prop where
  outDir_eq : settings.outDir = some outDir
  read : t.readText cwd input.path = .ok source
  compiled : compile source (settings.optionsFor input.path) = .ok output
  errand_eq : errandOf settings cwd t input = .ofOutput cwd (input.destination outDir) output

theorem ofWriting_failed {path destination : String} {output : Output} {r : Except FileError Unit}
    (fine : (FileOutcome.ofWriting path destination output r).failed = false) : r = .ok () := by
  cases r with
  | ok done => rfl
  | error e => cases fine

/-- The outcome tells how the writing went. -/
theorem ofWriting_injective (path destination : String) (output : Output) :
    Function.Injective (FileOutcome.ofWriting path destination output) := by
  intro r s same
  cases r with
  | ok done =>
    have failed := congrArg FileOutcome.failed same
    exact (ofWriting_failed failed.symm).symm
  | error e =>
    cases s with
    | ok done =>
      have failed := congrArg FileOutcome.failed same
      cases ofWriting_failed failed
    | error e' =>
      have findings := congrArg FileOutcome.findings same
      have first : Finding.ofMessage e.message = Finding.ofMessage e'.message := (List.cons.inj findings).1
      rw [message_injective (congrArg Finding.message first)]

section Processing

variable {t : FileTree} {cwd : Location} {input : Input} {root : String} {place : Location}
  {front : List (List Char)} {last : List Char} {settings : Settings}

theorem Collected.processFile_writes (collected : Collected t cwd input root place front last) (sound : t.Sound)
    (linkless : t.Linkless) {outDir source : String} {output : Output}
    (writes : Writes settings cwd t input outDir source output) {t' : FileTree} (grown : t.Grown t') :
    processFile settings cwd input t' =
      (((errandOf settings cwd t input).run t').1,
        .ofWriting input.path (input.destination outDir) output ((errandOf settings cwd t input).run t').2) := by
  obtain ⟨code, codeAt⟩ := collected.codeAt
  have down := nameOf_ne_dotDot (codeAt.proper code (by simp))
  have read := (collected.readText_grown sound linkless grown).trans writes.read
  rw [(Ends.written read writes.compiled writes.outDir_eq).processFile_eq,
    writeOutput_eq grown.linkless cwd (codeAt.ending outDir) down, writes.errand_eq]

/-- **Processing an input is running its errand.** Either there is nothing to write, which is a failure if
there is an output directory, or the outcome tells how the writing went. -/
theorem Collected.processFile_cases (collected : Collected t cwd input root place front last) (sound : t.Sound)
    (linkless : t.Linkless) (settings : Settings) :
    (errandOf settings cwd t input = .idle ∧ ∃ outcome : FileOutcome,
      (settings.outDir.isSome → outcome.failed = true) ∧
        ∀ t', t.Grown t' → processFile settings cwd input t' = (t', outcome)) ∨
      ∃ outDir source output, Writes settings cwd t input outDir source output := by
  have reads := fun t' (grown : t.Grown t') => collected.readText_grown sound linkless grown
  cases read : t.readText cwd input.path with
  | error e =>
    refine Or.inl ⟨?_, _, fun _ => rfl, fun t' grown => (Ends.unread ((reads t' grown).trans read)).processFile_eq⟩
    unfold errandOf
    rw [read]
    cases settings.outDir <;> rfl
  | ok source =>
    cases compiled : compile source (settings.optionsFor input.path) with
    | error e =>
      refine Or.inl ⟨?_, _, fun _ => rfl,
        fun t' grown => (Ends.uncompiled ((reads t' grown).trans read) compiled).processFile_eq⟩
      unfold errandOf
      rw [read]
      cases settings.outDir with
      | none => rfl
      | some outDir =>
        dsimp only
        rw [compiled]
    | ok output =>
      cases out : settings.outDir with
      | none =>
        refine Or.inl ⟨?_, _, fun some => ?_,
          fun t' grown => (Ends.printed ((reads t' grown).trans read) compiled out).processFile_eq⟩
        · rw [errandOf, out]
        · cases some
      | some outDir =>
        refine Or.inr ⟨outDir, source, output, out, read, compiled, ?_⟩
        unfold errandOf
        rw [out, read]
        dsimp only
        rw [compiled]

/-- The tree after a step is that after the errand. -/
theorem Collected.processFile_tree (collected : Collected t cwd input root place front last) (sound : t.Sound)
    (linkless : t.Linkless) (settings : Settings) {t' : FileTree} (grown : t.Grown t') :
    (processFile settings cwd input t').1 = ((errandOf settings cwd t input).run t').1 := by
  rcases collected.processFile_cases sound linkless settings with
    ⟨idle, outcome, _, process⟩ | ⟨outDir, source, output, writes⟩
  · rw [process t' grown, idle]
    rfl
  · rw [collected.processFile_writes sound linkless writes grown]

/-- **Two steps on an input have one outcome if its errand went alike**, and only then. -/
theorem Collected.processFile_outcome_iff (collected : Collected t cwd input root place front last)
    (sound : t.Sound) (linkless : t.Linkless) (settings : Settings) {t₁ t₂ : FileTree} (grown₁ : t.Grown t₁)
    (grown₂ : t.Grown t₂) :
    (processFile settings cwd input t₁).2 = (processFile settings cwd input t₂).2 ↔
      ((errandOf settings cwd t input).run t₁).2 = ((errandOf settings cwd t input).run t₂).2 := by
  rcases collected.processFile_cases sound linkless settings with
    ⟨idle, outcome, _, process⟩ | ⟨outDir, source, output, writes⟩
  · rw [process t₁ grown₁, process t₂ grown₂, idle]
    exact iff_of_true rfl rfl
  · rw [collected.processFile_writes sound linkless writes grown₁,
      collected.processFile_writes sound linkless writes grown₂]
    exact (ofWriting_injective _ _ _).eq_iff

end Processing

/-! ### Where errands put files -/

/-- The place of the output directory. -/
def delivery (cwd : Location) (outDir : String) : Location := arrive (start cwd outDir) (route outDir)

section Places

variable {cwd : Location} {input : Input} {front : List (List Char)} {code : List Char}

theorem CodeAt.start_eq (codeAt : CodeAt input front code) (cwd : Location) (outDir : String) :
    start cwd (input.destination outDir) = start cwd outDir :=
  start_of_isAbsolute (codeAt.isAbsolute_destination outDir) cwd

/-- Paths below the output directory go through its names. -/
theorem route_ending {path outDir : String} {last : List Char}
    (ending : Path.Ending path (Path.names outDir ++ front) last) :
    route path = route outDir ++ (front ++ [last]).map nameOf := by
  rw [route, ending.names_eq, List.append_assoc, List.map_append, route]

theorem CodeAt.way_eq (codeAt : CodeAt input front code) (cwd : Location) (outDir : String) (output : Output) :
    (Errand.ofOutput cwd (input.destination outDir) output).way = route outDir ++ front.map nameOf := by
  rw [Errand.way_ofOutput, route_ending (codeAt.ending outDir), List.map_append, List.map_singleton, ← List.append_assoc,
    List.dropLast_concat]

/-- Names below the output directory lead there. -/
theorem arrive_delivery (cwd : Location) (outDir : String) {ps : List (List Char)}
    (proper : ∀ p ∈ ps, Path.Proper p) :
    arrive (start cwd outDir) (route outDir ++ ps.map nameOf) = delivery cwd outDir ++ ps.map nameOf := by
  rw [arrive_append, arrive_of_not_mem (dotDot_not_mem_map proper)]
  rfl

/-- The place of the code. -/
theorem CodeAt.spot_code (codeAt : CodeAt input front code) {outDir : String} {place : Location}
    (named : spot cwd (input.destination outDir) = .ok place) :
    place = delivery cwd outDir ++ (front ++ [code]).map nameOf := by
  rw [(spot_eq_ok named).2.2, codeAt.start_eq, route_ending (codeAt.ending outDir)]
  exact arrive_delivery cwd outDir codeAt.proper

theorem CodeAt.proper_map (codeAt : CodeAt input front code) (outDir : String) :
    ∀ p ∈ front ++ [code ++ ".map".toList], Path.Proper p := by
  obtain ⟨ending, down⟩ := ending_mapPath (codeAt.ending outDir)
  intro p member
  rcases List.mem_append.mp member with above | final
  · exact codeAt.proper p (by simp [above])
  · rw [List.mem_singleton.mp final]
    refine ⟨ending.named, fun dots => ?_, ?_⟩
    · rw [dots, nameOf_dotDot] at down
      exact down rfl
    · rw [List.mem_append, not_or]
      exact ⟨(codeAt.proper code (by simp)).plain, by decide⟩

/-- The place of the source map. -/
theorem CodeAt.spot_map (codeAt : CodeAt input front code) {outDir : String} {place : Location}
    (named : spot cwd (mapPath (input.destination outDir)) = .ok place) :
    place = delivery cwd outDir ++ (front ++ [code ++ ".map".toList]).map nameOf := by
  have full : input.destination outDir ≠ "" := by
    intro empty
    have none := (codeAt.ending outDir).names_eq
    rw [empty, Path.names_empty] at none
    simp at none
  have absolute : Path.isAbsolute (mapPath (input.destination outDir)) = Path.isAbsolute outDir := by
    rw [mapPath, Path.isAbsolute_append full, codeAt.isAbsolute_destination]
  rw [(spot_eq_ok named).2.2, start_of_isAbsolute absolute, route_ending (ending_mapPath (codeAt.ending outDir)).1]
  exact arrive_delivery cwd outDir (codeAt.proper_map outDir)

/-- **An errand puts files in two places at most**, that of the code and that of the source map. -/
theorem CodeAt.mem_files (codeAt : CodeAt input front code) {outDir : String} {output : Output}
    {place : Location} {content : ByteArray}
    (member : (.ok place, content) ∈ (Errand.ofOutput cwd (input.destination outDir) output).files) :
    ∃ name, (name = code ∨ name = code ++ ".map".toList) ∧
      place = delivery cwd outDir ++ (front ++ [name]).map nameOf := by
  rw [Errand.files_ofOutput] at member
  unfold Errand.filesOf at member
  split at member
  · rw [List.mem_singleton] at member
    exact ⟨code, Or.inl rfl, codeAt.spot_code (Prod.mk.inj member).1.symm⟩
  · rw [List.mem_cons, List.mem_singleton] at member
    rcases member with map | code_
    · exact ⟨_, Or.inr rfl, codeAt.spot_map (Prod.mk.inj map).1.symm⟩
    · exact ⟨code, Or.inl rfl, codeAt.spot_code (Prod.mk.inj code_).1.symm⟩

/-- Places below the output directory tell the pieces that lead to them. -/
theorem delivery_inj {outDir : String} {ps qs : List (List Char)}
    (same : delivery cwd outDir ++ ps.map nameOf = delivery cwd outDir ++ qs.map nameOf) : ps = qs :=
  (List.map_inj_right fun _ _ alike => nameOf_injective alike).mp (List.append_cancel_left same)

/-- The code and the source map of an input have places of their own. -/
theorem CodeAt.files_own (codeAt : CodeAt input front code) (cwd : Location) (outDir : String) (output : Output) :
    (Errand.ofOutput cwd (input.destination outDir) output).files.Pairwise
      fun a b => ∀ place, a.1 = .ok place → b.1 ≠ .ok place := by
  rw [Errand.files_ofOutput]
  refine Errand.pairwise_filesOf (fun place mapNamed codeNamed => ?_) output
  have same := delivery_inj ((codeAt.spot_code codeNamed).symm.trans (codeAt.spot_map mapNamed))
  exact codeAt.ne_map code (List.cons.inj (List.append_cancel_left same)).1

/-- **Inputs with different destinations have no name in common**, of code or of a source map. -/
theorem CodeAt.names_ne (codeAt : CodeAt input front code) {other : Input} {front' : List (List Char)}
    {code' : List Char} (codeAt' : CodeAt other front' code') {outDir : String}
    (apart : input.destination outDir ≠ other.destination outDir) {name name' : List Char}
    (kind : name = code ∨ name = code ++ ".map".toList) (kind' : name' = code' ∨ name' = code' ++ ".map".toList) :
    front ++ [name] ≠ front' ++ [name'] := by
  intro same
  obtain ⟨fronts, names⟩ := List.append_inj' same rfl
  have name_eq : name = name' := (List.cons.inj names).1
  have codes : code = code' → False := by
    rintro rfl
    exact apart (codeAt.destination_eq codeAt' (by rw [fronts]) outDir)
  rcases kind with rfl | rfl <;> rcases kind' with rfl | rfl
  · exact codes name_eq
  · exact codeAt.ne_map _ name_eq
  · exact codeAt'.ne_map _ name_eq.symm
  · exact codes (List.append_cancel_right name_eq)

/-- **Inputs with different destinations have no place in common.** -/
theorem CodeAt.files_apart (codeAt : CodeAt input front code) {other : Input} {front' : List (List Char)}
    {code' : List Char} (codeAt' : CodeAt other front' code') {outDir : String}
    (apart : input.destination outDir ≠ other.destination outDir) {output output' : Output} {place : Location}
    {content content' : ByteArray}
    (member : (.ok place, content) ∈ (Errand.ofOutput cwd (input.destination outDir) output).files) :
    (.ok place, content') ∉ (Errand.ofOutput cwd (other.destination outDir) output').files := by
  intro member'
  obtain ⟨name, kind, there⟩ := codeAt.mem_files member
  obtain ⟨name', kind', there'⟩ := codeAt'.mem_files member'
  exact codeAt.names_ne codeAt' apart kind kind' (delivery_inj (there.symm.trans there'))

end Places

/-- **A step leaves directories and source files as they are.** -/
theorem Collected.grown_run {t : FileTree} {cwd : Location} {input : Input} {root : String} {place : Location}
    {front : List (List Char)} {last : List Char} (collected : Collected t cwd input root place front last)
    (sound : t.Sound) (linkless : t.Linkless) (settings : Settings) {t' : FileTree} (grown : t.Grown t') :
    t.Grown ((errandOf settings cwd t input).run t').1 := by
  have changes := fun p => (errandOf settings cwd t input).run_get? grown.linkless p
  refine ⟨Errand.linkless_run _ grown.linkless, fun p directory => ?_, fun above name content isSource stands => ?_⟩
  · have before := grown.directories p directory
    rcases changes p with same | ⟨free, _⟩ | ⟨other, _⟩
    · rw [same, before]
    · rw [before] at free
      cases free
    · exact absurd before other
  · have before := grown.sources above name content isSource stands
    rcases changes (above ++ [nameOf name]) with same | ⟨free, _⟩ | ⟨_, written, member, _⟩
    · rw [same, before]
    · rw [before] at free
      cases free
    · -- A file of the errand would have the name of a source file.
      obtain ⟨code, codeAt⟩ := collected.codeAt
      rcases collected.processFile_cases sound linkless settings with
        ⟨idle, _⟩ | ⟨outDir, source, output, writes⟩
      · rw [idle] at member
        cases member
      · rw [writes.errand_eq] at member
        obtain ⟨other, kind, there⟩ := codeAt.mem_files member
        rw [List.map_append, List.map_singleton, ← List.append_assoc] at there
        have same : name = other := nameOf_injective (List.append_inj_right' there rfl |> List.cons.inj |>.1)
        rw [same] at isSource
        rcases kind with rfl | rfl
        · rw [codeAt.not_isSource.1] at isSource
          cases isSource
        · rw [codeAt.not_isSource.2] at isSource
          cases isSource

/-- **Errands of inputs with different destinations have no file in common.** -/
theorem errandOf_apart {t : FileTree} {cwd : Location} {settings : Settings} {input other : Input}
    {root root' : String} {above above' : Location} {front front' : List (List Char)} {last last' : List Char}
    (collected : Collected t cwd input root above front last)
    (collected' : Collected t cwd other root' above' front' last') (sound : t.Sound) (linkless : t.Linkless)
    (apart : ∀ outDir, settings.outDir = some outDir → input.destination outDir ≠ other.destination outDir)
    {place : Location} {content content' : ByteArray}
    (member : (.ok place, content) ∈ (errandOf settings cwd t input).files) :
    (.ok place, content') ∉ (errandOf settings cwd t other).files := by
  intro member'
  rcases collected.processFile_cases sound linkless settings with ⟨idle, _⟩ | ⟨outDir, source, output, writes⟩
  · rw [idle] at member
    cases member
  · rcases collected'.processFile_cases sound linkless settings with
      ⟨idle, _⟩ | ⟨outDir', source', output', writes'⟩
    · rw [idle] at member'
      cases member'
    · have same : outDir = outDir' := Option.some.inj (writes.outDir_eq.symm.trans writes'.outDir_eq)
      subst same
      rw [writes.errand_eq] at member
      rw [writes'.errand_eq] at member'
      obtain ⟨code, codeAt⟩ := collected.codeAt
      obtain ⟨code', codeAt'⟩ := collected'.codeAt
      exact codeAt.files_apart codeAt' (apart outDir writes.outDir_eq) member member'

end Detype
