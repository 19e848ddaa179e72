import Detype.Proofs.Files.Siblings
import Detype.Proofs.OutputNames
import Detype.Proofs.Run.Footprint
import Detype.Proofs.SourceMaps

/-
**The names that tie code and source map together.**

The name of an output is found three times: by the compilation from the file name of the input, by the writing from the
path below the output directory, and by the comment in the code from the path of the map. They agree, whatever dots the
names have and however deep the input lies.

* `NamesMap` — the name that a text gives its map; `namesMap_withMapComment` — the one that code gets.
* `writeOutput_ok` — what a writing that succeeds has written.
* `Input.NamesAgree` — the names in an output agree with the paths to which it is written.
* `namesAgree_of_collect` — they agree for all inputs that a search finds.
-/

namespace Detype

/-! ### The comment -/

/-- A text names a file as its map: the name, without a slash, is what stands between the last marker and the end of the
text. -/
def NamesMap (text name : String) : Prop :=
  '/' ∉ name.toList ∧ ∃ before, text = before ++ "//# sourceMappingURL=" ++ name ++ "\n"

/-- A text names one map at most: its last slash is that of the marker. -/
theorem NamesMap.unique {text name name' : String} (names : NamesMap text name) (names' : NamesMap text name') :
    name = name' := by
  obtain ⟨plain, before, rfl⟩ := names
  obtain ⟨plain', before', same⟩ := names'
  have marker : "//# sourceMappingURL=".toList = '/' :: '/' :: "# sourceMappingURL=".toList := by decide
  have split : ∀ before name : String, (before ++ "//# sourceMappingURL=" ++ name ++ "\n").toList =
      (before.toList ++ ['/']) ++ '/' :: ("# sourceMappingURL=".toList ++ name.toList ++ ['\n']) := by
    intro before name
    simp [marker]
  have slashless : ∀ name : String, '/' ∉ name.toList →
      '/' ∉ "# sourceMappingURL=".toList ++ name.toList ++ ['\n'] := by
    intro name plain
    simp [plain]
  have alike := congrArg String.toList same
  rw [split, split] at alike
  obtain ⟨_, behind⟩ := eq_of_last (slashless name plain) (slashless name' plain') alike
  exact String.toList_inj.mp (List.append_cancel_left (List.append_cancel_right behind))

theorem mapComment_eq {destination mapName : String} (named : Path.fileName? (mapPath destination) = some mapName) :
    mapComment destination = "//# sourceMappingURL=" ++ mapName ++ "\n" := by
  unfold mapComment
  rw [named]
  rfl

/-- **Code gets the file name of its map.** -/
theorem namesMap_withMapComment (code : String) {destination mapName : String}
    (named : Path.fileName? (mapPath destination) = some mapName) (plain : '/' ∉ mapName.toList) (name : String) :
    NamesMap (withMapComment code destination) name ↔ name = mapName := by
  have own : NamesMap (withMapComment code destination) mapName := by
    rw [withMapComment_eq, codeText, if_pos rfl, mapComment_eq named, ← String.append_assoc, ← String.append_assoc]
    exact ⟨plain, _, rfl⟩
  exact ⟨fun names => names.unique own, fun same => same ▸ own⟩

/-! ### The files -/

/-- The writing of an output with a map has made the directories above the code, then written the map beside the code,
and then the code with the comment. -/
def WritesBoth (t t' : FileTree) (cwd : Location) (destination : String) (output : Output) (map : String) : Prop :=
  ∃ made mapped, makeAbove t cwd destination = (made, .ok ()) ∧
    made.writeFile cwd (mapPath destination) map.toUTF8 = .ok mapped ∧
    mapped.writeFile cwd destination (withMapComment output.code destination).toUTF8 = .ok t'

theorem writeText_ok {t t' : FileTree} {cwd : Location} {path text : String}
    (written : writeText t cwd path text = (t', .ok ())) : t.writeFile cwd path text.toUTF8 = .ok t' := by
  unfold writeText at written
  split at written
  · next done => rw [done, (Prod.mk.inj written).1]
  · cases (Prod.mk.inj written).2

/-- **What a writing that succeeds has written.** -/
theorem writeOutput_ok {t t' : FileTree} {cwd : Location} {destination map : String} {output : Output}
    (hasMap : output.sourceMap = some map) (written : writeOutput t cwd destination output = (t', .ok ())) :
    WritesBoth t t' cwd destination output map := by
  rw [writeOutput_stages] at written
  split at written
  · cases (Prod.mk.inj written).2
  · next made above =>
    unfold writeFiles at written
    rw [hasMap] at written
    dsimp only at written
    split at written
    · cases (Prod.mk.inj written).2
    · next mapped first => exact ⟨made, mapped, above, writeText_ok first, writeText_ok written⟩

/-! ### The names -/

/-- **The names in an output agree** with the paths of the input and of the files that are written for it. -/
structure Input.NamesAgree (input : Input) (outDir : String) (output : Output) (map : String) : Prop where
  /-- The map is written beside the code. -/
  written : ∀ t t' cwd, writeOutput t cwd (input.destination outDir) output = (t', .ok ()) →
    WritesBoth t t' cwd (input.destination outDir) output map
  /-- The map says the name of the code file, and in all its sources that of the input. -/
  said : ∃ entries sources codeName name, Json.Tells map (.obj entries) ∧
    Path.fileName? (input.destination outDir) = some codeName ∧ Path.fileName? input.path = some name ∧
    (∀ v, ("file", v) ∈ entries ↔ v = .str codeName) ∧
    (∀ v, ("sources", v) ∈ entries ↔ v = .arr sources) ∧ ∀ s ∈ sources, s = .str name
  /-- The code says a name that leads from its directory to the map. -/
  leads : ∃ directory mapName, Path.parent? (input.destination outDir) = some directory ∧
    (∀ name, NamesMap (withMapComment output.code (input.destination outDir)) name ↔ name = mapName) ∧
    Path.components (Path.join directory mapName) = Path.components (mapPath (input.destination outDir))

/-- The code of an input has the name that the output of its last name has. -/
theorem codeAt_last {input : Input} {front : List (List Char)} {last : List Char}
    (proper : ∀ p ∈ front ++ [last], Path.Proper p)
    (relative_eq : input.relative = String.ofList (Path.joinPieces (front ++ [last]))) :
    CodeAt input front (outputFileName (String.ofList last)).toList := by
  obtain ⟨code, codeAt⟩ := codeAt_of_proper proper relative_eq
  have same := codeAt.name_eq
  rw [relative_eq, outputFileName_concat] at same
  have behind := String.ofList_injective same
  rw [← List.nil_append (outputFileName _).toList, ← List.nil_append code, ← Path.joinPieces_concat_append,
    ← Path.joinPieces_concat_append] at behind
  rwa [List.append_cancel_left behind]

/-- **The names in an output agree**, for every input that a search finds, every output directory and every source text:
the map of the compilation is written beside the code, it says the names of the code file and of the input, and the code
says the name of the map. -/
theorem namesAgree_of_collect {t : FileTree} (sound : t.Sound) {cwd : Location} {ignore : Glob.Patterns}
    {paths : List String} {input : Input} (found : input ∈ (collect t cwd ignore paths).inputs) {settings : Settings}
    {outDir : String} (out : settings.outDir = some outDir) (maps : settings.options.sourceMap = true)
    {source : String} {output : Output} (compiled : compile source (settings.optionsFor input.path) = .ok output) :
    ∃ map, output.sourceMap = some map ∧ input.NamesAgree outDir output map := by
  obtain ⟨front, last, proper, relative_eq, named⟩ := relative_of_collect sound found
  have codeAt := codeAt_last proper relative_eq
  have ending := codeAt.ending outDir
  obtain ⟨mapEnding, mapDown⟩ := ending_mapPath ending
  have on : (settings.optionsFor input.path).sourceMap = true := (optionsFor_sourceMap out _).trans maps
  obtain ⟨places, hasMap⟩ := compile_map compiled on
  have options : (settings.optionsFor input.path).fileName = some (String.ofList last) := by
    rw [Settings.optionsFor, named, out]
    rfl
  have header : mapHeader (withoutMark source) (settings.optionsFor input.path) =
      { file := some (outputFileName (String.ofList last)), source := String.ofList last, content := none } := by
    rw [mapHeader, options]
  rw [header] at hasMap
  have codeProper := codeAt.proper _ List.mem_concat_self
  have mapProper : Path.Proper ((outputFileName (String.ofList last)).toList ++ ".map".toList) := by
    refine ⟨mapEnding.named, fun dots => mapDown (dots ▸ FileTree.nameOf_dotDot), ?_⟩
    rw [List.mem_append, not_or]
    exact ⟨codeProper.plain, by decide⟩
  refine ⟨_, hasMap, fun _ _ _ => writeOutput_ok hasMap, ?_, ?_⟩
  · refine ⟨_, _, _, _, SourceMap.tells_json _ places, ending.fileName? codeProper.down, named,
      fun v => ?_, fun v => SourceMap.mem_sources_iff, ?_⟩
    · rw [SourceMap.mem_file_iff rfl, String.ofList_toList]
    · intro s member
      split at member
      · cases member
      · exact List.mem_singleton.mp member
  · obtain ⟨directory, above⟩ := Option.isSome_iff_exists.mp (Path.parent?_isSome (by rw [ending.names_eq]; simp))
    refine ⟨directory, _, above, namesMap_withMapComment output.code (mapEnding.fileName? mapProper.down) ?_,
      components_join_mapName ending above mapProper⟩
    rw [String.toList_ofList]
    exact mapProper.plain

/-- A text that can be parsed has an output. -/
theorem exists_output {source : String} {options : Options}
    (read : ((Source.ofString (withoutMark source)).parse options.jsx).isOk = true) :
    ∃ output, compile source options = .ok output := by
  unfold compile finish
  split
  · next failed =>
    rw [failed] at read
    cases read
  · exact ⟨_, rfl⟩

/-- A source file two directories deep, with dots in all names. -/
def dottedNames : FileTree :=
  ⟨[(["s"].map Text.bytesOf, .directory), (["s", "v.d"].map Text.bytesOf, .directory),
    (["s", "v.d", "a.b.mts"].map Text.bytesOf, .file .empty)]⟩

/-- Source maps, below a directory whose path ends in slashes. -/
def mapsBelowO : Settings := { options := { sourceMap := true }, outDir := some "o//" }

theorem dottedNames_agree :
    ∃ output, compile "let x: number" (mapsBelowO.optionsFor "./s/v.d/a.b.mts") = .ok output ∧
      ∃ map, output.sourceMap = some map ∧ Input.NamesAgree ⟨"./s/v.d/a.b.mts", "v.d/a.b.mts"⟩ "o//" output map := by
  have found : (⟨"./s/v.d/a.b.mts", "v.d/a.b.mts"⟩ : Input) ∈ (collect dottedNames [] [] ["./s"]).inputs := by
    decide +kernel
  have read : ((Source.ofString (withoutMark "let x: number")).parse
      (mapsBelowO.optionsFor "./s/v.d/a.b.mts").jsx).isOk = true := by decide +kernel
  obtain ⟨output, compiled⟩ := exists_output read
  exact ⟨output, compiled, namesAgree_of_collect (FileTree.sound_of_entries (by decide +kernel)) found rfl rfl compiled⟩

end Detype
