import Detype.Proofs.Influence
import Detype.Proofs.Printer.Plain
import Detype.Proofs.Run.MapNames

/-
**Lines that a run adds to code.**

Standard output gets a banner with the path of the input before each code, if there are several inputs, and a file with
a source map gets a comment after its code. The comment always begins a line, since a code that does not end its last
line is followed by a line feed. The banner does not: it begins a line just if the code before it has ended its own.
Either is one line just if the path, or the name of the map, has no line feed.

* `AtLineStart`, `HasLine`, `LastLine` — a place at which a line begins, and whole lines of a text.
* `bannered` — codes with their banners; `banners_whole_iff` — when all banners are whole lines.
* `World.shown` — the codes that a run prints; `World.Collects.stdout_eq` — its standard output.
* `lastLine_iff` — when the comment is the last line of a file.
* `runInOrder_added_lines` — both, for a run.
-/

namespace Detype

/-! ### Lines -/

/-- A line begins behind a text. -/
def AtLineStart (text : String) : Prop := text = "" ∨ text.toList.getLast? = some '\n'

/-- In a text, a whole line stands behind some other text: it begins there, is one line and is ended. -/
def HasLine (text before line : String) : Prop :=
  AtLineStart before ∧ '\n' ∉ line.toList ∧ ∃ after, text = before ++ line ++ "\n" ++ after

/-- A line is the last one of a text. -/
def LastLine (text line : String) : Prop :=
  ∃ before, AtLineStart before ∧ '\n' ∉ line.toList ∧ text = before ++ line ++ "\n"

/-- Behind a line and more text a line begins just if the text is empty or ends a line. -/
theorem atLineStart_append (before text : String) :
    AtLineStart (before ++ "\n" ++ text) ↔ AtLineStart text := by
  by_cases empty : text = ""
  · simp [empty, AtLineStart]
  · have full : text.toList ≠ [] := fun none => empty (String.toList_eq_nil_iff.mp none)
    simp only [AtLineStart, String.toList_append, List.getLast?_append_of_ne_nil _ full, empty, false_or]
    simp [empty]

/-! ### Banners -/

/-- Codes with banners before them, each given with the path of its input. -/
def bannered (shown : List (String × String)) : String :=
  String.join (shown.map fun (path, code) => "// " ++ path ++ "\n" ++ code)

theorem bannered_append (shown later : List (String × String)) :
    bannered (shown ++ later) = bannered shown ++ bannered later := by
  rw [bannered, List.map_append, String.join_append]
  rfl

theorem bannered_cons (path code : String) (later : List (String × String)) :
    bannered ((path, code) :: later) = "// " ++ path ++ "\n" ++ code ++ bannered later := by
  rw [bannered, List.map_cons, String.join_cons]
  rfl

/-- All banners are whole lines. -/
def BannersWhole (text : String) (shown : List (String × String)) : Prop :=
  ∀ before path code after, shown = before ++ (path, code) :: after → HasLine text (bannered before) ("// " ++ path)

/-- Behind a code a line begins just if the code has none that is not ended. -/
theorem atLineStart_bannered (before : List (String × String)) (s : String × String) :
    AtLineStart (bannered (before ++ [s])) ↔ AtLineStart s.2 := by
  obtain ⟨path, code⟩ := s
  have empty : bannered [] = "" := rfl
  rw [bannered_append, bannered_cons, empty, String.append_empty, ← String.append_assoc, ← String.append_assoc]
  exact atLineStart_append _ code

/-- **All banners are whole lines** just if no path has a line feed, and every code but the last ends its last line. -/
theorem banners_whole_iff (shown : List (String × String)) :
    BannersWhole (bannered shown) shown ↔
      (∀ s ∈ shown, '\n' ∉ s.1.toList) ∧ ∀ s ∈ shown.dropLast, AtLineStart s.2 := by
  have single : ∀ path : String, '\n' ∉ ("// " ++ path).toList ↔ '\n' ∉ path.toList := by
    intro path
    simp
  constructor
  · refine fun whole => ⟨fun s member => ?_, fun s member => ?_⟩
    · obtain ⟨before, after, split⟩ := List.append_of_mem member
      exact (single s.1).mp (whole before s.1 s.2 after split).2.1
    · -- Behind the code comes the banner of the next one.
      obtain ⟨last, ends⟩ : ∃ last, shown = shown.dropLast ++ [last] := by
        cases shown using List.reverseRecOn with
        | nil => cases member
        | append_singleton front last => exact ⟨last, by rw [List.dropLast_concat]⟩
      obtain ⟨before, after, split⟩ := List.append_of_mem member
      obtain ⟨next, rest, later⟩ := List.exists_cons_of_ne_nil (show after ++ [last] ≠ [] by simp)
      have here : shown = (before ++ [s]) ++ (next.1, next.2) :: rest := by
        rw [ends, split, List.append_assoc, List.cons_append, later, List.append_assoc]
        rfl
      exact (atLineStart_bannered before s).mp (whole _ _ _ _ here).1
  · rintro ⟨plain, ended⟩ before path code after rfl
    refine ⟨?_, (single path).mpr (plain (path, code) (by simp)), code ++ bannered after, ?_⟩
    · cases before using List.reverseRecOn with
      | nil => exact Or.inl rfl
      | append_singleton front s =>
        refine (atLineStart_bannered front s).mpr (ended s ?_)
        rw [List.append_assoc, List.dropLast_append_of_ne_nil (by simp)]
        exact List.mem_append_right front (by simp)
    · rw [bannered_append, bannered_cons]
      simp only [String.append_assoc]

/-! ### Standard output -/

/-- What standard output gets of an input if there is no output directory: its path, and its code if there is one. -/
def Input.shown? (input : Input) (settings : Settings) (w : World) : Option (String × String) :=
  match w.tree.readText w.cwd input.path with
  | .error _ => none
  | .ok source =>
    match compile source (settings.optionsFor input.path) with
    | .error _ => none
    | .ok output => some (input.path, output.code)

namespace World

/-- The codes that a run without an output directory prints, in the order of its inputs: none if standard output is
full. -/
def shown (w : World) (settings : Settings) (inputs : List Input) : List (String × String) :=
  if w.stdoutFull then [] else inputs.filterMap (·.shown? settings w)

/-- On a standard output that is full nothing is printed. -/
theorem stdout_printAll_full {args : Arguments} {banners : Bool} {p : Printed} (blank : p.stdout = "")
    (outcomes : List FileOutcome) : (printAll args banners true p outcomes).1.stdout = "" := by
  induction outcomes generalizing p with
  | nil => exact blank
  | cons o rest ih =>
    rw [printAll]
    split
    · exact blank
    · next silent =>
      have nothing : outcomeText banners o = "" := by simpa using silent
      exact ih (by rw [printOutcome_stdout, blank, nothing, String.append_empty])

/-- On another one all outcomes are printed. -/
theorem printAll_roomy (args : Arguments) (banners : Bool) (p : Printed) (outcomes : List FileOutcome) :
    printAll args banners false p outcomes = (outcomes.foldl (printOutcome args banners) p, none) := by
  induction outcomes generalizing p with
  | nil => rfl
  | cons o rest ih =>
    rw [printAll, if_neg (by simp), ih]
    rfl

theorem report_stdout (w : World) (args : Arguments) (tree : FileTree) (outcomes : List FileOutcome)
    (log : List LogEvent) :
    (w.report args tree outcomes log).stdout =
      if w.stdoutFull then "" else String.join (outcomes.map (outcomeText (decide (outcomes.length > 1)))) := by
  unfold report
  dsimp only
  cases full : w.stdoutFull with
  | true =>
    have blank := @stdout_printAll_full args (decide (outcomes.length > 1))
      { summary := { files := outcomes.length, failOnDiagnostics := args.failOnDiagnostics } } rfl outcomes
    split
    · next shape =>
      rw [shape] at blank
      exact blank
    · next shape =>
      rw [shape] at blank
      exact blank
  | false =>
    rw [printAll_roomy]
    dsimp only
    rw [stdout_foldl, String.empty_append]
    rfl

/-- A step shows its input behind a banner. -/
theorem outcomeText_processFile {settings : Settings} (printing : settings.outDir = none) (w : World) (input : Input) :
    outcomeText true (processFile settings w.cwd input w.tree).2 = bannered (input.shown? settings w).toList := by
  have empty : bannered [] = "" := rfl
  have ends := ends_processFile settings w.cwd input w.tree
  generalize processFile settings w.cwd input w.tree = r at ends ⊢
  unfold Input.shown?
  cases ends with
  | unread read =>
    rw [read]
    rfl
  | uncompiled read failed =>
    simp only [read, failed]
    rfl
  | printed read compiled =>
    simp only [read, compiled]
    rw [Option.toList_some, bannered_cons, empty, String.append_empty]
    rfl
  | written _ _ out =>
    rw [printing] at out
    cases out

/-- Without an output directory every step finds the tree of the start. -/
theorem processAll_without_outDir {settings : Settings} (printing : settings.outDir = none) (cwd : Location)
    {inputs : List Input} {order : List Nat} (perm : order.Perm (List.range inputs.length)) (t : FileTree) :
    (processAll settings cwd inputs order t).2 = inputs.map fun input => (processFile settings cwd input t).2 := by
  refine List.ext_getElem? fun i => ?_
  rw [List.getElem?_map]
  cases given : inputs[i]? with
  | some input =>
    have start : treeBefore settings cwd inputs order t i = t :=
      processSteps_keeps (P := (· = t)) (fun i _ input _ t' same => by
        rw [processFile_without_outDir printing, same]) rfl
    rw [getElem?_processAll_eq perm t given, start]
    rfl
  | none =>
    rw [List.getElem?_eq_none_iff] at given
    rw [List.getElem?_eq_none (by rw [length_processAll_eq settings cwd perm t]; exact given)]
    rfl

/-- **Standard output of a run on several inputs without an output directory** has their codes, each behind its
banner. -/
theorem Collects.stdout_eq {w : World} {args : Arguments} {settings : Settings} {inputs : List Input}
    {schedule : Nat → List Nat} (orders : ∀ n, (schedule n).Perm (List.range n))
    (collects : w.Collects args settings inputs) (printing : settings.outDir = none) (several : 1 < inputs.length) :
    (w.runInOrder args schedule).stdout = bannered (w.shown settings inputs) := by
  have joined : ∀ some : List Input, String.join (some.map fun input =>
      outcomeText true (processFile settings w.cwd input w.tree).2) = bannered (some.filterMap (·.shown? settings w)) := by
    intro some
    induction some with
    | nil => rfl
    | cons input rest ih =>
      rw [List.map_cons, String.join_cons, ih, outcomeText_processFile printing, ← bannered_append]
      cases shape : input.shown? settings w <;> simp only [List.filterMap_cons, shape] <;> rfl
  obtain ⟨log, report_eq⟩ := collects.runInOrder_eq
  rw [report_eq, report_stdout, processAll_without_outDir printing w.cwd (orders _), List.length_map,
    decide_eq_true several, List.map_map, shown]
  split
  · rfl
  · exact joined inputs

end World

/-- An input whose text becomes a plain script is shown as that. -/
theorem shown?_plain {w : World} {settings : Settings} {input : Input} {text code : String}
    (read : (w.tree.readText w.cwd input.path).toOption = some text)
    (becomes : ((Source.ofString (withoutMark text)).parse (settings.optionsFor input.path).jsx).toOption.any
      (fun parsed =>
        let depth := Parser.depthFor (Source.ofString (withoutMark text))
        parsed.leading.isEmpty && parsed.trailing.isEmpty &&
          (Compilation.transform parsed.program (settings.optionsFor input.path) depth).code? depth == some code) = true) :
    input.shown? settings w = some (input.path, code) := by
  obtain ⟨parsed, parses, rest⟩ := exists_of_any becomes
  simp only [Bool.and_eq_true, List.isEmpty_iff, beq_iff_eq] at rest
  obtain ⟨⟨leading, trailing⟩, plain⟩ := rest
  obtain ⟨output, compiled, rfl⟩ := compile_plain parses leading trailing plain
  rw [Input.shown?, ok_of_toOption read]
  dsimp only
  rw [compiled]

/-! ### Files with source maps -/

/-- **The comment begins a line** in every file with a source map, and it ends at the end of the file. -/
theorem exists_before_comment (code : String) {destination name : String}
    (named : Path.fileName? (mapPath destination) = some name) :
    ∃ before, AtLineStart before ∧
      withMapComment code destination = before ++ ("//# sourceMappingURL=" ++ name) ++ "\n" := by
  rw [withMapComment_eq, codeText, if_pos rfl, mapComment_eq named, ← String.append_assoc]
  refine ⟨_, ?_, rfl⟩
  split
  · next ended =>
    rw [String.append_empty]
    exact ended
  · exact Or.inr (by simp)

/-- So the comment is the last line of the file just if the name of the map has no line feed. -/
theorem lastLine_iff (code : String) {destination name : String}
    (named : Path.fileName? (mapPath destination) = some name) :
    LastLine (withMapComment code destination) ("//# sourceMappingURL=" ++ name) ↔ '\n' ∉ name.toList := by
  have single : '\n' ∉ ("//# sourceMappingURL=" ++ name).toList ↔ '\n' ∉ name.toList := by simp
  obtain ⟨before, starts, spelled⟩ := exists_before_comment code named
  exact ⟨fun ⟨_, _, plain, _⟩ => single.mp plain, fun plain => ⟨before, starts, single.mpr plain, spelled⟩⟩

/-! ### Runs -/

/-- **Lines that a run adds to code.** In a run on several inputs without an output directory all banners are whole lines
just if no path of a code that is printed has a line feed, and every such code but the last is empty or ends in a line
feed. In every file that is written with a source map the comment begins a line, and it is the last line of the file
just if the name of the map has no line feed. -/
theorem runInOrder_added_lines {w : World} {args : Arguments} {settings : Settings} {inputs : List Input}
    {schedule : Nat → List Nat} (sound : w.tree.Sound) (orders : ∀ n, (schedule n).Perm (List.range n))
    (collects : w.Collects args settings inputs) :
    (settings.outDir = none → 1 < inputs.length →
      (w.runInOrder args schedule).stdout = bannered (w.shown settings inputs) ∧
      (BannersWhole (w.runInOrder args schedule).stdout (w.shown settings inputs) ↔
        (∀ s ∈ w.shown settings inputs, '\n' ∉ s.1.toList) ∧
          ∀ s ∈ (w.shown settings inputs).dropLast, AtLineStart s.2)) ∧
    ∀ outDir, settings.outDir = some outDir → settings.options.sourceMap = true → ∀ input ∈ inputs, ∀ source output,
      compile source (settings.optionsFor input.path) = .ok output →
      ∃ map name before, output.sourceMap = some map ∧ Path.fileName? (mapPath (input.destination outDir)) = some name ∧
        (∀ t t' cwd, writeOutput t cwd (input.destination outDir) output = (t', .ok ()) →
          WritesBoth t t' cwd (input.destination outDir) output map) ∧
        withMapComment output.code (input.destination outDir) = before ++ ("//# sourceMappingURL=" ++ name) ++ "\n" ∧
        AtLineStart before ∧
        (LastLine (withMapComment output.code (input.destination outDir)) ("//# sourceMappingURL=" ++ name) ↔
          '\n' ∉ name.toList) := by
  refine ⟨fun printing several => ?_, fun outDir out maps input member source output compiled => ?_⟩
  · have printed := collects.stdout_eq orders printing several
    exact ⟨printed, printed ▸ banners_whole_iff _⟩
  · obtain ⟨searched, planned⟩ := collects.planned
    obtain ⟨⟨ignore, rfl⟩, _⟩ := plan_ok planned
    obtain ⟨front, code, codeAt⟩ := codeAt_of_collect sound member
    obtain ⟨mapEnding, mapDown⟩ := ending_mapPath (codeAt.ending outDir)
    have named := mapEnding.fileName? fun dots => mapDown (dots ▸ FileTree.nameOf_dotDot)
    obtain ⟨map, hasMap⟩ := Option.isSome_iff_exists.mp <|
      (compile_sourceMap compiled).trans ((optionsFor_sourceMap out _).trans maps)
    obtain ⟨before, starts, spelled⟩ := exists_before_comment output.code named
    exact ⟨map, _, before, hasMap, named, fun _ _ _ => writeOutput_ok hasMap, spelled, starts, lastLine_iff _ named⟩

/-- A working directory with two source files that are an empty block each. -/
def twoBlocks : World where
  tree := ⟨[(["w"].map Text.bytesOf, .directory), (["w", "a.ts"].map Text.bytesOf, .file "\x7b\x7d".toUTF8),
    (["w", "b.ts"].map Text.bytesOf, .file "\x7b\x7d".toUTF8)]⟩
  cwd := ["w"].map Text.bytesOf

theorem twoBlocks_collects : twoBlocks.Collects bothFiles {} [⟨"a.ts", "a.ts"⟩, ⟨"b.ts", "b.ts"⟩] :=
  .of_plan rfl (by decide +kernel) rfl rfl (by decide +kernel)

theorem twoBlocks_shown :
    twoBlocks.shown {} [⟨"a.ts", "a.ts"⟩, ⟨"b.ts", "b.ts"⟩] = [("a.ts", "\x7b\x7d"), ("b.ts", "\x7b\x7d")] := by
  have first : Input.shown? ⟨"a.ts", "a.ts"⟩ {} twoBlocks = some ("a.ts", "\x7b\x7d") :=
    @shown?_plain twoBlocks {} ⟨"a.ts", "a.ts"⟩ "\x7b\x7d" _ (by decide +kernel) (by decide +kernel)
  have second : Input.shown? ⟨"b.ts", "b.ts"⟩ {} twoBlocks = some ("b.ts", "\x7b\x7d") :=
    @shown?_plain twoBlocks {} ⟨"b.ts", "b.ts"⟩ "\x7b\x7d" _ (by decide +kernel) (by decide +kernel)
  unfold World.shown
  rw [if_neg (by decide)]
  simp only [List.filterMap_cons, List.filterMap_nil, first, second]

/-- The second banner stands behind the first block, on the line of that. -/
theorem twoBlocks_glued :
    twoBlocks.Collects bothFiles {} [⟨"a.ts", "a.ts"⟩, ⟨"b.ts", "b.ts"⟩] ∧
      (twoBlocks.runInOrder bothFiles List.range).stdout = "// a.ts\n\x7b\x7d// b.ts\n\x7b\x7d" ∧
      ¬ BannersWhole (twoBlocks.runInOrder bothFiles List.range).stdout [("a.ts", "\x7b\x7d"), ("b.ts", "\x7b\x7d")] := by
  have printed : (twoBlocks.runInOrder bothFiles List.range).stdout =
      bannered [("a.ts", "\x7b\x7d"), ("b.ts", "\x7b\x7d")] := by
    rw [twoBlocks_collects.stdout_eq (fun n => .refl _) rfl (by decide), twoBlocks_shown]
  refine ⟨twoBlocks_collects, printed.trans (by decide), fun whole => ?_⟩
  rw [printed, banners_whole_iff] at whole
  have ended := whole.2 ("a.ts", "\x7b\x7d") (by decide)
  rcases ended with empty | feed
  · exact absurd empty (by decide)
  · exact absurd feed (by decide)

/-- The banners of a run on two blocks, and the comment in the code of an empty file. -/
theorem twoBlocks_lines :
    ((twoBlocks.runInOrder bothFiles List.range).stdout =
        bannered (twoBlocks.shown {} [⟨"a.ts", "a.ts"⟩, ⟨"b.ts", "b.ts"⟩]) ∧
      (BannersWhole (twoBlocks.runInOrder bothFiles List.range).stdout
          (twoBlocks.shown {} [⟨"a.ts", "a.ts"⟩, ⟨"b.ts", "b.ts"⟩]) ↔
        (∀ s ∈ twoBlocks.shown {} [⟨"a.ts", "a.ts"⟩, ⟨"b.ts", "b.ts"⟩], '\n' ∉ s.1.toList) ∧
          ∀ s ∈ (twoBlocks.shown {} [⟨"a.ts", "a.ts"⟩, ⟨"b.ts", "b.ts"⟩]).dropLast, AtLineStart s.2)) ∧
    ∃ output, compile "" (Settings.optionsFor { options := { sourceMap := true }, outDir := some "o" } "s/a.ts") =
        .ok output ∧
      LastLine (withMapComment output.code (Input.destination ⟨"s/a.ts", "a.ts"⟩ "o"))
        "//# sourceMappingURL=a.js.map" := by
  refine ⟨(runInOrder_added_lines (FileTree.sound_of_entries (by decide +kernel)) (fun n => .refl _) twoBlocks_collects).1 rfl
    (by decide), ?_⟩
  have read : ((Source.ofString (withoutMark "")).parse
      (Settings.optionsFor { options := { sourceMap := true }, outDir := some "o" } "s/a.ts").jsx).isOk = true := by
    decide +kernel
  obtain ⟨output, compiled⟩ := exists_output read
  obtain ⟨_, name, _, _, named, _, _, _, last⟩ :=
    (@runInOrder_added_lines _ _ _ _ List.range twoRoots_sound (fun n => .refl _)
      twoRoots_collects).2 "o" rfl rfl _ List.mem_cons_self "" output compiled
  have own : Path.fileName? (mapPath (Input.destination ⟨"s/a.ts", "a.ts"⟩ "o")) = some "a.js.map" := by decide +kernel
  obtain rfl : name = "a.js.map" := Option.some.inj (named.symm.trans own)
  exact ⟨output, compiled, last.mpr (by decide)⟩

end Detype
