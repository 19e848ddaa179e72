import Detype.Proofs.Files.Prefix
import Detype.Proofs.Files.Sound
import Detype.Run.Run

/-
**The inputs that directories give.**

An input that a directory gives is a regular file below it. Its path leads to it, its output is beside
where it would be below the output directory, and neither the code nor the source map of any input has
the name of a source file.

* `Collected` — how an input lies below a directory of the arguments.
* `given_or_collected` — every input of a search does, unless it is given as a file.
* `collected_of_collect` — every input that directories give does.
* `splitExtension_cases`, `outputFileName_joinPieces` — the name of an output, from that of its input.
* `CodeAt` — the names of the place where its code goes; `Collected.codeAt` — they end in no name of a source.
* `checkCollisions_ok` — inputs that are not refused go to places of their own.
-/

namespace Detype

open FileTree

/-! ### Names of outputs -/

/-- Extensions of source files. -/
def sourceExtensions : List (List Char) := [['t', 's'], ['t', 's', 'x'], ['m', 't', 's'], ['c', 't', 's']]

/-- Extensions of code files. -/
def codeExtensions : List (List Char) := [['j', 's'], ['m', 'j', 's'], ['c', 'j', 's']]

/-- The extension of the code for that of the source. -/
def codeExtension (extension : List Char) : List Char :=
  if extension = ['m', 't', 's'] then ['m', 'j', 's']
  else if extension = ['c', 't', 's'] then ['c', 'j', 's']
  else ['j', 's']

theorem codeExtension_mem (extension : List Char) : codeExtension extension ∈ codeExtensions := by
  unfold codeExtension
  split
  · decide
  · split <;> decide

/-- A source file has one of the extensions. -/
theorem extension_of_isSourceFile {name : List Char} (isSource : isSourceFile (String.ofList name) = true) :
    ∃ stem, ∃ extension ∈ sourceExtensions, name = stem ++ '.' :: extension := by
  rw [isSourceFile, Bool.and_eq_true, List.any_eq_true] at isSource
  obtain ⟨⟨ending, listed, ends⟩, _⟩ := isSource
  rw [endsIn, List.isSuffixOf_iff_suffix, String.toList_ofList] at ends
  obtain ⟨stem, rfl⟩ := ends
  have dotted : ∀ ending ∈ sourceEndings, ∃ extension ∈ sourceExtensions, ending.toList = '.' :: extension := by
    decide
  obtain ⟨extension, known, spelled⟩ := dotted ending listed
  exact ⟨stem, extension, known, by rw [spelled]⟩

/-- A name is split before its last dot, unless that stands before a separator. -/
theorem splitExtension_dot (stem : List Char) {extension : List Char} (plain : '.' ∉ extension) :
    splitExtension (String.ofList (stem ++ '.' :: extension)) =
      if '/' ∈ extension ∨ '\\' ∈ extension then (String.ofList (stem ++ '.' :: extension), "")
      else (String.ofList stem, String.ofList extension) := by
  have last : (((stem ++ '.' :: extension).reverse.takeWhile (· != '.')).reverse) = extension := by
    rw [List.reverse_append, List.reverse_cons, List.append_assoc, List.takeWhile_append_of_pos]
    · simp
    · intro c member
      rw [bne_iff_ne]
      rintro rfl
      exact plain (List.mem_reverse.mp member)
  have count : (stem ++ '.' :: extension).length - extension.length - 1 = stem.length := by
    simp only [List.length_append, List.length_cons]
    omega
  unfold splitExtension
  simp only [String.toList_ofList, last]
  by_cases separated : '/' ∈ extension ∨ '\\' ∈ extension
  · rw [if_pos separated, if_neg]
    rcases separated with slash | slash <;> simp [slash]
  · rw [if_neg separated, if_pos, count, List.take_left]
    rw [not_or] at separated
    simp [separated.1, separated.2]

/-- A name is split before a dot, or it is kept whole. -/
theorem splitExtension_cases (name : List Char) :
    splitExtension (String.ofList name) = (String.ofList name, "") ∨
      ∃ stem extension, name = stem ++ '.' :: extension ∧ '/' ∉ extension ∧
        splitExtension (String.ofList name) = (String.ofList stem, String.ofList extension) := by
  by_cases dotted : '.' ∈ name
  · -- The last dot is the first one from behind.
    obtain ⟨behind, before, reversed, plain⟩ := List.eq_append_cons_of_mem (List.mem_reverse.mpr dotted)
    have split : name = before.reverse ++ '.' :: behind.reverse := by
      rw [← List.reverse_reverse name, reversed]
      simp
    have found := splitExtension_dot before.reverse (mt List.mem_reverse.mp plain)
    rw [← split] at found
    by_cases separated : '/' ∈ behind.reverse ∨ '\\' ∈ behind.reverse
    · rw [if_pos separated] at found
      exact Or.inl found
    · rw [if_neg separated] at found
      exact Or.inr ⟨_, _, split, fun slash => separated (Or.inl slash), found⟩
  · unfold splitExtension
    simp [dotted]

/-- **The output of a source file has the extension for its source.** -/
theorem outputFileName_source (stem : List Char) {extension : List Char} (known : extension ∈ sourceExtensions) :
    outputFileName (String.ofList (stem ++ '.' :: extension)) =
      String.ofList (stem ++ '.' :: codeExtension extension) := by
  have plain : ∀ e ∈ sourceExtensions, '.' ∉ e ∧ ¬ ('/' ∈ e ∨ '\\' ∈ e) := by decide
  unfold outputFileName
  rw [splitExtension_dot stem (plain _ known).1, if_neg (plain _ known).2]
  rw [show sourceExtensions = [_, _, _, _] from rfl] at known
  simp only [List.mem_cons, List.not_mem_nil, or_false] at known
  rcases known with rfl | rfl | rfl | rfl <;> exact String.toList_inj.mp (by simp [codeExtension])

/-- An output has the name that is left of its source, with an extension for code. -/
theorem outputFileName_eq {name stem extension : String} (split : splitExtension name = (stem, extension)) :
    ∃ ending ∈ codeExtensions, outputFileName name = String.ofList (stem.toList ++ '.' :: ending) := by
  have appended : ∀ ending : List Char, stem ++ String.ofList ('.' :: ending) =
      String.ofList (stem.toList ++ '.' :: ending) := fun ending => String.toList_inj.mp (by simp)
  unfold outputFileName
  rw [split]
  dsimp only
  split
  · exact ⟨['m', 'j', 's'], by decide, appended _⟩
  · exact ⟨['c', 'j', 's'], by decide, appended _⟩
  · exact ⟨['j', 's'], by decide, appended _⟩

/-- What follows the last slash of a path ends in any end of the path without one. -/
theorem suffix_of_joinPieces {front : List (List Char)} {last before tail : List Char}
    (spelled : Path.joinPieces (front ++ [last]) = before ++ tail) (plain : '/' ∉ tail) : tail <:+ last := by
  induction front generalizing before with
  | nil => exact ⟨before, spelled.symm⟩
  | cons p front ih =>
    rw [List.cons_append, Path.joinPieces_cons p (by simp)] at spelled
    rcases List.append_eq_append_iff.mp spelled with ⟨between, rfl, rest⟩ | ⟨between, rfl, rest⟩
    · cases between with
      | nil =>
        rw [List.nil_append] at rest
        exact absurd (rest ▸ List.mem_cons_self) plain
      | cons c between => exact ih (List.cons.inj rest).2
    · exact absurd (rest ▸ List.mem_append_right between List.mem_cons_self) plain

/-- **The output of a file goes where the file is**, under a name with an extension for code. -/
theorem outputFileName_joinPieces (front : List (List Char)) {last : List Char} (plain : '/' ∉ last) :
    ∃ stem, '/' ∉ stem ∧ ∃ extension ∈ codeExtensions,
      outputFileName (String.ofList (Path.joinPieces (front ++ [last]))) =
        String.ofList (Path.joinPieces (front ++ [stem ++ '.' :: extension])) := by
  rcases splitExtension_cases (Path.joinPieces (front ++ [last])) with whole | ⟨stem, extension, spelled, local', split⟩
  · obtain ⟨ending, known, named⟩ := outputFileName_eq whole
    refine ⟨last, plain, ending, known, ?_⟩
    rw [named, String.toList_ofList, Path.joinPieces_concat_append]
  · obtain ⟨ending, known, named⟩ := outputFileName_eq split
    obtain ⟨before, rfl⟩ := suffix_of_joinPieces spelled (by simpa using local')
    have stem_eq : stem = Path.joinPieces (front ++ [before]) := by
      rw [← Path.joinPieces_concat_append] at spelled
      exact (List.append_cancel_right spelled).symm
    refine ⟨before, fun slash => plain (List.mem_append_left _ slash), ending, known, ?_⟩
    rw [named, String.toList_ofList, stem_eq, Path.joinPieces_concat_append]

/-- Neither code nor a source map has the name of a source file. -/
theorem not_isSourceFile {stem extension : List Char} (known : extension ∈ codeExtensions) :
    isSourceFile (String.ofList (stem ++ '.' :: extension)) = false ∧
      isSourceFile (String.ofList (stem ++ '.' :: extension ++ ".map".toList)) = false := by
  have ends : ∀ name : List Char, isSourceFile (String.ofList name) = true →
      ∃ e ∈ sourceExtensions, (name.reverse.take 2).reverse = (e.reverse.take 2).reverse := by
    intro name isSource
    obtain ⟨before, e, listed, rfl⟩ := extension_of_isSourceFile isSource
    refine ⟨e, listed, ?_⟩
    have long : ∀ e ∈ sourceExtensions, 2 ≤ e.length := by decide
    have enough := long e listed
    rw [List.reverse_append, List.reverse_cons, List.append_assoc, List.take_append_of_le_length (by simpa)]
  have code : ∀ e ∈ sourceExtensions, ∀ c ∈ codeExtensions,
      (c.reverse.take 2).reverse ≠ (e.reverse.take 2).reverse ∧
        ((c ++ ".map".toList).reverse.take 2).reverse ≠ (e.reverse.take 2).reverse := by decide
  have long : ∀ c ∈ codeExtensions, 2 ≤ c.length := by decide
  have enough := long extension known
  refine ⟨?_, ?_⟩
  · rw [Bool.eq_false_iff]
    intro isSource
    obtain ⟨e, listed, same⟩ := ends _ isSource
    rw [List.reverse_append, List.reverse_cons, List.append_assoc,
      List.take_append_of_le_length (by simpa)] at same
    exact (code e listed extension known).1 same
  · rw [Bool.eq_false_iff]
    intro isSource
    obtain ⟨e, listed, same⟩ := ends _ isSource
    rw [List.append_assoc, List.cons_append, List.reverse_append, List.reverse_cons, List.append_assoc,
      List.take_append_of_le_length (by simp)] at same
    exact (code e listed extension known).2 same

/-! ### What a search finds -/

/-- What a search finds was found before or by one of its parts. -/
theorem mem_foldl_andThen {α : Type} (find : α → Harvest) (xs : List α) (before : Harvest) {input : Input}
    (member : input ∈ (xs.foldl (fun h x => h.andThen (find x)) before).inputs) :
    input ∈ before.inputs ∨ ∃ x ∈ xs, input ∈ (find x).inputs := by
  induction xs generalizing before with
  | nil => exact Or.inl member
  | cons x xs ih =>
    rcases ih (before.andThen (find x)) member with early | ⟨y, listed, found⟩
    · unfold Harvest.andThen at early
      split at early
      · exact Or.inl early
      · rcases List.mem_append.mp early with old | new
        · exact Or.inl old
        · exact Or.inr ⟨x, by simp, new⟩
    · exact Or.inr ⟨y, by simp [listed], found⟩

/-- How an input lies below a directory: the path and the place of the directory, and the pieces that lead
from it to the input. -/
structure Collected (t : FileTree) (cwd : Location) (input : Input) (root : String) (place : Location)
    (front : List (List Char)) (last : List Char) : Prop where
  found : t.entryAt? cwd root = some (place, .directory)
  stands : ∃ content, t.get? (place ++ (front ++ [last]).map nameOf) = some (.file content)
  proper : ∀ p ∈ front ++ [last], Path.Proper p
  isSource : isSourceFile (String.ofList last) = true
  path_eq : input.path = (front ++ [last]).foldl (fun path p => Path.join path (String.ofList p)) root
  relative_eq : input.relative = String.ofList (Path.joinPieces (front ++ [last]))

theorem toList_intercalate_slash (texts : List String) :
    (String.intercalate "/" texts).toList = Path.joinPieces (texts.map String.toList) := by
  induction texts with
  | nil => simp [Path.joinPieces]
  | cons s rest ih =>
    cases rest with
    | nil => simp [Path.joinPieces]
    | cons r rest =>
      rw [List.map_cons, Path.joinPieces_cons _ (by simp), ← ih, String.intercalate_cons_cons]
      simp

/-- The path below a directory is the texts of its names with slashes between them. -/
theorem stripPrefix?_foldl_texts (root : String) {texts : List String} (some : texts ≠ [])
    (proper : ∀ p ∈ texts.map String.toList, Path.Proper p) :
    Path.stripPrefix? root (texts.foldl Path.join root) = Option.some (String.intercalate "/" texts) := by
  have found := @Path.stripPrefix?_foldl_join root (texts.map String.toList) (by simpa using some) proper
  rw [List.foldl_map, ← toList_intercalate_slash, String.ofList_toList] at found
  simpa using found

theorem mapM_textOf? {names : List FileName} (textual : ∀ n ∈ names, (Text.textOf? n).isSome = true) :
    ∃ texts, names.mapM Text.textOf? = some texts := by
  induction names with
  | nil => exact ⟨[], rfl⟩
  | cons n rest ih =>
    obtain ⟨text, first⟩ := Option.isSome_iff_exists.mp (textual n List.mem_cons_self)
    obtain ⟨texts, others⟩ := ih fun m member => textual m (List.mem_cons_of_mem n member)
    refine ⟨text :: texts, ?_⟩
    rw [List.mapM_cons, first, others]
    rfl

/-- Names that have texts have proper pieces, if they can stand in directories. -/
theorem pieces_of_mapM_textOf? {names : Location} {texts : List String}
    (spelled : names.mapM Text.textOf? = some texts) (valid : ∀ n ∈ names, IsName n) :
    (texts.map String.toList).map nameOf = names ∧ ∀ p ∈ texts.map String.toList, Path.Proper p := by
  induction names generalizing texts with
  | nil =>
    cases spelled
    simp
  | cons n rest ih =>
    rw [List.mapM_cons] at spelled
    obtain ⟨s, first, spelled⟩ := Option.bind_eq_some_iff.mp spelled
    obtain ⟨ss, later, done⟩ := Option.bind_eq_some_iff.mp spelled
    cases done
    obtain ⟨names_eq, proper⟩ := ih later fun m member => valid m (by simp [member])
    obtain ⟨name_eq, first_proper⟩ := proper_of_isName first (valid n (by simp))
    rw [List.map_cons, List.map_cons, names_eq, name_eq]
    refine ⟨rfl, fun p member => ?_⟩
    rcases List.mem_cons.mp member with rfl | member
    · exact first_proper
    · exact proper p member

/-- **What a file below a directory contributes** lies below that directory. -/
theorem collected_of_harvestFile {t : FileTree} (sound : t.Sound) {cwd place : Location} {root : String}
    (found : t.entryAt? cwd root = some (place, .directory)) {names : Location} (below : names ∈ t.filesBelow place)
    {ignore : Glob.Patterns} {input : Input} (member : input ∈ (harvestFile ignore root names).inputs) :
    ∃ front last, Collected t cwd input root place front last := by
  obtain ⟨some_, content, stands⟩ := mem_filesBelow below
  have valid : ∀ n ∈ names, IsName n := fun n listed => sound.names _ _ stands n (by simp [listed])
  unfold harvestFile at member
  split at member
  · cases member
  · next texts spelled =>
    obtain ⟨names_eq, proper⟩ := pieces_of_mapM_textOf? spelled valid
    have nonempty : texts.map String.toList ≠ [] := by
      intro none
      rw [none] at names_eq
      exact some_ names_eq.symm
    obtain ⟨init, last, split⟩ := List.eq_nil_or_concat texts |>.resolve_left (by rintro rfl; exact nonempty rfl)
    rw [List.concat_eq_append] at split
    subst split
    have relative := stripPrefix?_foldl_texts root (by simp) proper
    have pieces : (init ++ [last]).map String.toList = init.map String.toList ++ [last.toList] := by simp
    rw [pieces] at names_eq proper
    dsimp only at member
    rw [relative, Option.getD_some] at member
    split at member
    · cases member
    · next isSource =>
      split at member
      · cases member
      · rw [List.mem_singleton] at member
        refine ⟨init.map String.toList, last.toList, found, ⟨content, ?_⟩, proper, ?_, ?_, ?_⟩
        · rw [names_eq, stands]
        · simpa using isSource
        · rw [member, ← pieces, List.foldl_map]
          simp
        · rw [member, ← pieces, ← toList_intercalate_slash, String.ofList_toList]

/-- **An input of a search is given as a file, or it lies below a directory that is given.** -/
theorem given_or_collected {t : FileTree} (sound : t.Sound) {cwd : Location} {ignore : Glob.Patterns}
    {paths : List String} {input : Input} (member : input ∈ (collect t cwd ignore paths).inputs) :
    (input.path ∈ paths ∧ ∃ place content, t.entryAt? cwd input.path = some (place, .file content) ∧
      input.relative = (Path.fileName? input.path).getD input.path) ∨
      ∃ root place front last, Collected t cwd input root place front last := by
  rcases mem_foldl_andThen _ _ _ member with none | ⟨root, listed, inside⟩
  · cases none
  · unfold harvestPath at inside
    split at inside
    · next place content found =>
      rw [List.mem_singleton.mp inside]
      exact Or.inl ⟨listed, place, content, found, rfl⟩
    · next place found =>
      rcases mem_foldl_andThen _ _ _ inside with none | ⟨names, below, inside⟩
      · cases none
      · obtain ⟨front, last, collected⟩ := collected_of_harvestFile sound found below inside
        exact Or.inr ⟨root, place, front, last, collected⟩
    · cases inside

/-- What a directory gives, by the files below it. -/
theorem harvestPath_of_filesBelow {t : FileTree} {cwd place : Location} {root : String} {listed : List Location}
    (found : t.entryAt? cwd root = some (place, .directory)) (below : t.filesBelow place = listed)
    (ignore : Glob.Patterns) :
    harvestPath t cwd ignore root = listed.foldl (fun h names => h.andThen (harvestFile ignore root names)) {} := by
  unfold harvestPath
  rw [found, ← below]

/-- What directories of the arguments give lies below them. -/
theorem collected_of_collect {t : FileTree} (sound : t.Sound) {cwd : Location} {ignore : Glob.Patterns}
    {paths : List String} (directories : ∀ path ∈ paths, t.isDirectory cwd path = true) {input : Input}
    (member : input ∈ (collect t cwd ignore paths).inputs) :
    ∃ root place front last, Collected t cwd input root place front last := by
  rcases given_or_collected sound member with ⟨listed, place, content, found, _⟩ | collected
  · have directory := directories input.path listed
    rw [isDirectory, found] at directory
    cases directory
  · exact collected

/-- The file name of an input that was found in a directory is that of a source. -/
theorem Collected.fileName?_eq {t : FileTree} {cwd : Location} {input : Input} {root : String} {place : Location}
    {front : List (List Char)} {last : List Char} (collected : Collected t cwd input root place front last) :
    Path.fileName? input.path = some (String.ofList last) := by
  obtain ⟨ending, _⟩ := Path.ending_foldl_join root collected.proper
  rw [collected.path_eq]
  exact ending.fileName? (collected.proper last (by simp)).down

/-! ### Where outputs go -/

/-- Where the code of an input goes below the output directory: the pieces that lead to it. -/
structure CodeAt (input : Input) (front : List (List Char)) (code : List Char) : Prop where
  name_eq : outputFileName input.relative = String.ofList (Path.joinPieces (front ++ [code]))
  proper : ∀ p ∈ front ++ [code], Path.Proper p
  isCode : ∃ stem, ∃ extension ∈ codeExtensions, code = stem ++ '.' :: extension

/-- The name of a code file can stand in a directory. -/
theorem proper_codeName {stem extension : List Char} (plain : '/' ∉ stem) (known : extension ∈ codeExtensions) :
    Path.Proper (stem ++ '.' :: extension) := by
  have separate : ∀ e ∈ codeExtensions, '/' ∉ e := by decide
  have several : ∀ e ∈ codeExtensions, 2 ≤ e.length := by decide
  have long : 3 ≤ (stem ++ '.' :: extension).length := by
    have enough := several _ known
    simp only [List.length_append, List.length_cons]
    omega
  refine ⟨?_, fun dots => ?_, ?_⟩
  · rw [Path.isTrivial, Bool.or_eq_false_iff, List.isEmpty_eq_false_iff, beq_eq_false_iff_ne]
    refine ⟨fun none => ?_, fun dotted => ?_⟩
    · rw [none] at long
      exact absurd long (by decide)
    · rw [dotted] at long
      exact absurd long (by decide)
  · rw [dots] at long
    exact absurd long (by decide)
  · rw [List.mem_append, not_or, List.mem_cons, not_or]
    exact ⟨plain, by decide, separate _ known⟩

/-- **The code of an input goes where the input lies**, under a name of its own. -/
theorem codeAt_of_proper {input : Input} {front : List (List Char)} {last : List Char}
    (proper : ∀ p ∈ front ++ [last], Path.Proper p)
    (relative_eq : input.relative = String.ofList (Path.joinPieces (front ++ [last]))) :
    ∃ code, CodeAt input front code := by
  obtain ⟨stem, plain, extension, known, named⟩ := outputFileName_joinPieces front (proper last (by simp)).plain
  refine ⟨stem ++ '.' :: extension, relative_eq ▸ named, fun p member => ?_, stem, extension, known, rfl⟩
  rcases List.mem_append.mp member with above | final
  · exact proper p (List.mem_append_left _ above)
  · rw [List.mem_singleton.mp final]
    exact proper_codeName plain known

theorem Collected.codeAt {t : FileTree} {cwd : Location} {input : Input} {root : String} {place : Location}
    {front : List (List Char)} {last : List Char} (collected : Collected t cwd input root place front last) :
    ∃ code, CodeAt input front code :=
  codeAt_of_proper collected.proper collected.relative_eq

namespace CodeAt

variable {input : Input} {front : List (List Char)} {code : List Char}

theorem ending (codeAt : CodeAt input front code) (outDir : String) :
    Path.Ending (input.destination outDir) (Path.names outDir ++ front) code := by
  obtain ⟨ending, relative⟩ := Path.ending_joinPieces codeAt.proper
  rw [Input.destination, codeAt.name_eq]
  exact ending.join outDir relative

theorem isAbsolute_destination (codeAt : CodeAt input front code) (outDir : String) :
    Path.isAbsolute (input.destination outDir) = Path.isAbsolute outDir := by
  obtain ⟨_, relative⟩ := Path.ending_joinPieces codeAt.proper
  rw [Input.destination, codeAt.name_eq]
  exact Path.isAbsolute_join outDir relative

/-- Inputs whose code goes to one place have one destination. -/
theorem destination_eq {other : Input} {front' : List (List Char)} {code' : List Char}
    (codeAt : CodeAt input front code) (codeAt' : CodeAt other front' code')
    (same : front ++ [code] = front' ++ [code']) (outDir : String) :
    input.destination outDir = other.destination outDir := by
  rw [Input.destination, Input.destination, codeAt.name_eq, codeAt'.name_eq, same]

/-- Neither the code nor the source map has the name of a source file. -/
theorem not_isSource (codeAt : CodeAt input front code) :
    isSourceFile (String.ofList code) = false ∧ isSourceFile (String.ofList (code ++ ".map".toList)) = false := by
  obtain ⟨stem, extension, known, rfl⟩ := codeAt.isCode
  exact not_isSourceFile known

/-- No code has the name of a source map. -/
theorem ne_map (codeAt : CodeAt input front code) (other : List Char) : code ≠ other ++ ".map".toList := by
  obtain ⟨stem, extension, known, rfl⟩ := codeAt.isCode
  intro same
  have last : ∀ e ∈ codeExtensions, e.getLast? = some 's' := by decide
  have codeEnds : (stem ++ '.' :: extension).getLast? = some 's' := by
    rw [List.getLast?_append, List.getLast?_cons, last _ known]
    rfl
  have mapEnds : (other ++ ".map".toList).getLast? = some 'p' := by
    rw [List.getLast?_append]
    rfl
  rw [same, mapEnds] at codeEnds
  exact absurd codeEnds (by decide)

end CodeAt

/-! ### Inputs that are accepted -/

theorem checkCollisions_go {outDir : String} {earlier inputs : List Input}
    (apart : earlier.Pairwise fun a b => a.destination outDir ≠ b.destination outDir)
    (accepted : checkCollisions.go outDir earlier inputs = .ok ()) :
    (earlier ++ inputs).Pairwise fun a b => a.destination outDir ≠ b.destination outDir := by
  induction inputs generalizing earlier with
  | nil => rwa [List.append_nil]
  | cons i rest ih =>
    rw [checkCollisions.go] at accepted
    split at accepted
    · cases accepted
    · next fresh =>
      rw [List.append_cons]
      refine ih ?_ accepted
      rw [List.pairwise_append]
      refine ⟨apart, List.pairwise_singleton .., fun a member b last same => ?_⟩
      rw [List.mem_singleton.mp last] at same
      have differs := List.find?_eq_none.mp fresh a member
      rw [same] at differs
      exact differs (beq_self_eq_true _)

/-- **Inputs that are not refused go to places of their own.** -/
theorem checkCollisions_ok {outDir : String} {inputs : List Input}
    (accepted : checkCollisions outDir inputs = .ok ()) :
    inputs.Pairwise fun a b => a.destination outDir ≠ b.destination outDir :=
  checkCollisions_go List.Pairwise.nil accepted

theorem plan_ok {w : World} {args : Arguments} {settings : Settings} {inputs : List Input}
    {searched : List LogEvent} (planned : w.plan args settings = (.ok inputs, searched)) :
    (∃ ignore, (collect w.tree w.cwd ignore args.inputs).inputs = inputs) ∧
      ∀ outDir, settings.outDir = some outDir → checkCollisions outDir inputs = .ok () := by
  unfold World.plan at planned
  split at planned
  · cases planned
  · next ignore _ =>
    obtain ⟨result, _⟩ := Prod.mk.inj planned
    unfold Harvest.result at result
    split at result
    · cases result
    · cases out : settings.outDir with
      | none =>
        rw [out] at result
        cases result
        exact ⟨⟨ignore, rfl⟩, fun outDir impossible => by cases impossible⟩
      | some outDir =>
        rw [out] at result
        dsimp only [bind, Except.bind] at result
        split at result
        · cases result
        · next accepted =>
          cases result
          refine ⟨⟨ignore, rfl⟩, fun other same => ?_⟩
          cases same
          exact accepted

end Detype
