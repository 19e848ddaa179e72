import Detype.Proofs.Files.Follow
import Detype.Proofs.Files.Listing
import Detype.Proofs.Run.Collected
import Mathlib.Data.List.Basic

/-
**What the paths of a run lead to.**

A directory gives its source files that no pattern matches, in the order of the names that lead to them; how the path
of the directory is spelled matters for the paths of the files only. A file gives itself. Several paths give what each
of them gives, up to the first that leads nowhere.

* `result_foldl_andThen` — searches one after the other give what each of them gives.
* `Sought` — a file that a search of a directory is for; `sought` lists these files.
* `mem_sought`, `pairwise_sought` — the list has all of them, in order.
* `harvestPath_directory`, `harvestPath_file` — what a directory and a file give.
* `entryAt?_spelling` — other spellings of a path lead to the same directory.
* `collect_result` — what the paths of a run give.
-/

namespace Detype

open FileTree

/-! ### One search after another -/

namespace Harvest

theorem result_andThen (a b : Harvest) :
    (a.andThen b).result = a.result.bind fun found => b.result.map (found ++ ·) := by
  obtain ⟨inputs, ignored, failure⟩ := a
  obtain ⟨inputs', ignored', failure'⟩ := b
  cases failure <;> cases failure' <;> rfl

/-- **Searches one after the other** give what each of them gives, or the first failure. -/
theorem result_foldl_andThen {α : Type} (find : α → Harvest) (xs : List α) (before : Harvest) :
    (xs.foldl (fun h x => h.andThen (find x)) before).result =
      before.result.bind fun found => (xs.mapM fun x => (find x).result).map fun later => found ++ later.flatten := by
  induction xs generalizing before with
  | nil =>
    cases shape : before.result <;> simp [shape, Except.bind, Except.map, pure, Except.pure]
  | cons x xs ih =>
    rw [List.foldl_cons, ih, result_andThen, List.mapM_cons]
    cases before.result with
    | error e => rfl
    | ok found =>
      cases (find x).result with
      | error e => rfl
      | ok here =>
        cases xs.mapM fun x => (find x).result with
        | error e => rfl
        | ok later => simp [Except.bind, Except.map, bind, pure, Except.pure]

theorem result_empty : ({} : Harvest).result = .ok [] := rfl

end Harvest

theorem mapM_ok {α β ε : Type} {f : α → Except ε β} {g : α → β} {xs : List α} (fine : ∀ x ∈ xs, f x = .ok (g x)) :
    xs.mapM f = .ok (xs.map g) := by
  induction xs with
  | nil => rfl
  | cons x xs ih =>
    rw [List.mapM_cons, fine x List.mem_cons_self, ih fun y member => fine y (List.mem_cons_of_mem x member)]
    rfl

theorem exists_mapM_ok {α β ε : Type} {f : α → Except ε β} {xs : List α} (fine : ∀ x ∈ xs, ∃ y, f x = .ok y) :
    ∃ ys, xs.mapM f = .ok ys := by
  induction xs with
  | nil => exact ⟨[], rfl⟩
  | cons x xs ih =>
    obtain ⟨y, first⟩ := fine x List.mem_cons_self
    obtain ⟨ys, others⟩ := ih fun x' member => fine x' (List.mem_cons_of_mem x member)
    refine ⟨y :: ys, ?_⟩
    rw [List.mapM_cons, first, others]
    rfl

theorem result_collect (t : FileTree) (cwd : Location) (ignore : Glob.Patterns) (paths : List String) :
    (collect t cwd ignore paths).result =
      (paths.mapM fun path => (harvestPath t cwd ignore path).result).map List.flatten := by
  rw [collect, Harvest.result_foldl_andThen, Harvest.result_empty]
  rfl

theorem result_collect_singleton (t : FileTree) (cwd : Location) (ignore : Glob.Patterns) (path : String) :
    (collect t cwd ignore [path]).result = (harvestPath t cwd ignore path).result := by
  rw [result_collect, List.mapM_cons, List.mapM_nil]
  cases (harvestPath t cwd ignore path).result with
  | error e => rfl
  | ok found => exact congrArg Except.ok (List.append_nil found)

/-! ### Files that are sought -/

/-- The input for a file below a directory, by the texts of the names that lead to it. -/
def Input.below (root : String) (texts : List String) : Input :=
  { path := texts.foldl Path.join root, relative := String.intercalate "/" texts }

/-- A regular file below a directory with the name of a source and a path that no pattern matches. -/
structure Sought (t : FileTree) (ignore : Glob.Patterns) (place : Location) (texts : List String) : Prop where
  stands : ∃ content, t.get? (place ++ texts.map Text.bytesOf) = some (.file content)
  isSource : isSourceFile (texts.getLast?.getD "") = true
  free : ignore.matches (String.intercalate "/" texts) = false

/-- All names below a directory are texts. -/
def FileTree.Textual (t : FileTree) (place : Location) : Prop :=
  ∀ below entry, t.get? (place ++ below) = some entry → ∀ n ∈ below, (Text.textOf? n).isSome = true

/-- Whether a file is sought, by the texts of the names that lead to it. -/
def isWanted (ignore : Glob.Patterns) (texts : List String) : Bool :=
  isSourceFile (texts.getLast?.getD "") && !ignore.matches (String.intercalate "/" texts)

/-- The files that are sought below a directory. -/
def sought (t : FileTree) (ignore : Glob.Patterns) (place : Location) : List (List String) :=
  ((t.filesBelow place).filterMap fun names => names.mapM Text.textOf?).filter (isWanted ignore)

theorem textOf?_bytesOf (text : String) : Text.textOf? (Text.bytesOf text) = some text := fromUTF8?_toUTF8 text

theorem mapM_textOf?_eq_some {names : Location} {texts : List String} :
    names.mapM Text.textOf? = some texts ↔ names = texts.map Text.bytesOf := by
  induction names generalizing texts with
  | nil => cases texts <;> simp
  | cons n names ih =>
    rw [List.mapM_cons]
    constructor
    · intro spelled
      obtain ⟨text, first, spelled⟩ := Option.bind_eq_some_iff.mp spelled
      obtain ⟨others, later, done⟩ := Option.bind_eq_some_iff.mp spelled
      cases done
      rw [List.map_cons, bytesOf_of_textOf? first, ← ih.mp later]
    · intro named
      cases texts with
      | nil => cases named
      | cons text others =>
        obtain ⟨rfl, rest⟩ := List.cons.inj named
        rw [textOf?_bytesOf, ih.mpr rest]
        rfl

/-- **The list has every file that is sought.** -/
theorem mem_sought {t : FileTree} (sound : t.Sound) {ignore : Glob.Patterns} {place : Location} {texts : List String} :
    texts ∈ sought t ignore place ↔ Sought t ignore place texts := by
  rw [sought, List.mem_filter, List.mem_filterMap, isWanted, Bool.and_eq_true, Bool.not_eq_true']
  constructor
  · rintro ⟨⟨names, listed, spelled⟩, isSource, free⟩
    obtain ⟨_, stands⟩ := mem_filesBelow listed
    exact ⟨mapM_textOf?_eq_some.mp spelled ▸ stands, isSource, free⟩
  · rintro ⟨stands, isSource, free⟩
    have some : texts ≠ [] := by
      rintro rfl
      exact absurd isSource (by decide)
    exact ⟨⟨_, (mem_filesBelow_iff sound).mpr ⟨by simpa using some, stands⟩, mapM_textOf?_eq_some.mpr rfl⟩, isSource, free⟩

/-- **The list is in the order of the names.** -/
theorem pairwise_sought (t : FileTree) (ignore : Glob.Patterns) (place : Location) :
    (sought t ignore place).Pairwise fun a b => a.map Text.bytesOf < b.map Text.bytesOf := by
  refine List.Pairwise.filter _ ((pairwise_filesBelow t place).filterMap _ fun names names' before a first b second => ?_)
  rwa [← mapM_textOf?_eq_some.mp first, ← mapM_textOf?_eq_some.mp second]

/-- The names that lead to a file that is sought are the components of its path below the directory. -/
theorem Sought.segments_eq {t : FileTree} (sound : t.Sound) {ignore : Glob.Patterns} {place : Location}
    {texts : List String} (sought : Sought t ignore place texts) :
    segments (String.intercalate "/" texts) = texts.map Text.bytesOf := by
  obtain ⟨content, stands⟩ := sought.stands
  have valid : ∀ n ∈ texts.map Text.bytesOf, IsName n :=
    fun n member => sound.names _ _ stands n (List.mem_append_right _ member)
  obtain ⟨named, proper⟩ := pieces_of_mapM_textOf? (mapM_textOf?_eq_some.mpr rfl) valid
  have some : texts.map String.toList ≠ [] := by
    intro none
    rw [List.map_eq_nil_iff.mp none] at sought
    exact absurd sought.isSource (by decide)
  rw [FileTree.segments_eq, toList_intercalate_slash, Path.pieces_joinPieces some fun p member => (proper p member).plain, named]

/-! ### What one path gives -/

section Search

variable {t : FileTree} {cwd : Location} (ignore : Glob.Patterns)

theorem result_harvestPath_of_directory {path : String} {directory : Location}
    (found : t.entryAt? cwd path = some (directory, .directory)) :
    (harvestPath t cwd ignore path).result =
      ((t.filesBelow directory).mapM fun names => (harvestFile ignore path names).result).map List.flatten := by
  unfold harvestPath
  rw [found]
  dsimp only
  rw [Harvest.result_foldl_andThen, Harvest.result_empty]
  rfl

theorem harvestPath_of_missing {path : String} (noFile : ∀ place content, t.entryAt? cwd path ≠ some (place, .file content))
    (noDirectory : ∀ place, t.entryAt? cwd path ≠ some (place, .directory)) :
    harvestPath t cwd ignore path = .fail (.inputNotFound path) := by
  unfold harvestPath
  split
  · next found => exact absurd found (noFile _ _)
  · next found => exact absurd found (noDirectory _)
  · rfl

/-- A file below a directory gives its input if it is wanted. -/
theorem result_harvestFile {names : Location} {texts : List String} (root : String) (some : names ≠ [])
    (valid : ∀ n ∈ names, IsName n) (spelled : names.mapM Text.textOf? = Option.some texts) :
    (harvestFile ignore root names).result = .ok (([texts].filter (isWanted ignore)).map (Input.below root)) := by
  obtain ⟨named, proper⟩ := pieces_of_mapM_textOf? spelled valid
  have nonempty : texts ≠ [] := by
    rintro rfl
    exact some named.symm
  unfold harvestFile
  rw [spelled]
  dsimp only
  rw [stripPrefix?_foldl_texts root nonempty proper, Option.getD_some, List.filter_cons, List.filter_nil, isWanted]
  cases isSourceFile (texts.getLast?.getD "") with
  | false => rfl
  | true => cases ignore.matches (String.intercalate "/" texts) <;> rfl

/-- **A directory gives the files that are sought below it.** -/
theorem harvestPath_directory (sound : t.Sound) {root : String} {place : Location}
    (found : t.entryAt? cwd root = some (place, .directory)) (textual : t.Textual place) :
    (harvestPath t cwd ignore root).result = .ok ((sought t ignore place).map (Input.below root)) := by
  have each : ∀ names ∈ t.filesBelow place, (harvestFile ignore root names).result =
      .ok (((names.mapM Text.textOf?).toList.filter (isWanted ignore)).map (Input.below root)) := by
    intro names listed
    obtain ⟨some, content, stands⟩ := mem_filesBelow listed
    obtain ⟨texts, spelled⟩ := mapM_textOf? (textual names _ stands)
    have valid : ∀ n ∈ names, IsName n := fun n member => sound.names _ _ stands n (List.mem_append_right _ member)
    rw [result_harvestFile ignore root some valid spelled, spelled]
    rfl
  rw [result_harvestPath_of_directory ignore found, mapM_ok each, sought, List.filterMap_eq_flatMap_toList,
    List.filter_flatMap, List.map_flatMap]
  rfl

/-- **A file gives itself**, under its last name. -/
theorem harvestPath_file {path : String} {place : Location} {content : ByteArray}
    (found : t.entryAt? cwd path = some (place, .file content)) :
    ∃ name, Path.fileName? path = some name ∧
      (harvestPath t cwd ignore path).result = .ok [{ path, relative := name }] := by
  obtain ⟨name, named, _⟩ := fileName?_of_file found
  refine ⟨name, named, ?_⟩
  unfold harvestPath
  rw [found, named]
  rfl

end Search

/-! ### Spellings of a directory -/

/-- Other spellings of a path. -/
def Path.spellings (path : String) : List String :=
  [path ++ "/", path ++ "/."] ++ if Path.isAbsolute path then [] else ["./" ++ path]

namespace FileTree

/-- **Other spellings of a path lead to the same directory**, if they are not too long. -/
theorem entryAt?_spelling {t : FileTree} {cwd place : Location} {path spelling : String}
    (found : t.entryAt? cwd path = some (place, .directory)) (listed : spelling ∈ Path.spellings path)
    (short : spelling.utf8ByteSize < 4096) : t.entryAt? cwd spelling = some (place, .directory) := by
  obtain ⟨nameable, resolves⟩ := entryAt?_iff_resolves.mp found
  obtain ⟨full, plain, _⟩ := textFault?_eq_none.mp nameable
  have behind : ∀ tail : List Char, isBlank (nameOf tail) = true → '/' ∉ tail → Char.ofNat 0 ∉ tail →
      (path ++ String.ofList ('/' :: tail)).utf8ByteSize < 4096 →
      t.entryAt? cwd (path ++ String.ofList ('/' :: tail)) = some (place, .directory) := by
    intro tail names slashless nulless short
    refine entryAt?_iff_resolves.mpr ⟨textFault?_eq_none.mpr ⟨by simp, ?_, short⟩, ?_⟩
    · simpa [nulless] using plain
    · have pieces : segments (path ++ String.ofList ('/' :: tail)) = segments path ++ [nameOf tail] := by
        rw [segments_eq, segments_eq, String.toList_append, String.toList_ofList, Path.pieces_append_slash,
          Path.pieces_of_not_mem slashless, List.map_append]
        rfl
      rw [pieces, start, Path.isAbsolute_append full]
      exact resolves.concat_blank names
  rcases List.mem_append.mp listed with after | before
  · rcases List.mem_cons.mp after with rfl | after
    · exact behind [] (by decide) (by decide) (by decide) short
    · rw [List.mem_singleton.mp after] at short ⊢
      exact behind ['.'] (by decide) (by decide) (by decide) short
  · split at before
    · cases before
    · next relative =>
      rw [List.mem_singleton.mp before] at short ⊢
      refine entryAt?_iff_resolves.mpr ⟨textFault?_eq_none.mpr ⟨by simp, ?_, short⟩, ?_⟩
      · simpa using plain
      · have pieces : segments ("./" ++ path) = dot :: segments path := by
          have spelled : ("./" ++ path).toList = ['.'] ++ '/' :: path.toList := by simp
          rw [segments_eq, segments_eq, spelled, Path.pieces_append_slash]
          rfl
        have here : start cwd ("./" ++ path) = start cwd path := by
          have dotted : Path.isAbsolute "./" = false := by decide
          rw [start, start, Path.isAbsolute_append (by decide), dotted, Bool.eq_false_iff.mpr relative]
        rw [pieces, here]
        exact .blank (by decide) resolves

end FileTree

/-! ### What the paths of a run give -/

/-- A path that a search can follow: to a file, or to a directory where all names are texts. -/
def FileTree.Searchable (t : FileTree) (cwd : Location) (path : String) : Prop :=
  (∃ place content, t.entryAt? cwd path = some (place, .file content)) ∨
    ∃ place, t.entryAt? cwd path = some (place, .directory) ∧ t.Textual place

theorem FileTree.Searchable.result {t : FileTree} (sound : t.Sound) {cwd : Location} {path : String}
    (searchable : t.Searchable cwd path) (ignore : Glob.Patterns) :
    ∃ inputs, (harvestPath t cwd ignore path).result = .ok inputs := by
  rcases searchable with ⟨place, content, found⟩ | ⟨place, found, textual⟩
  · obtain ⟨name, _, result⟩ := harvestPath_file ignore found
    exact ⟨_, result⟩
  · exact ⟨_, harvestPath_directory ignore sound found textual⟩

/-- **What the paths of a run give.** A directory gives every file that is sought below it once, in the order of the
components of the paths below the directory, however its path is spelled; a file gives itself; several paths give what
each of them gives, in their order; and the first path that leads neither to a file nor to a directory is reported. -/
theorem collect_result {t : FileTree} (sound : t.Sound) (cwd : Location) (ignore : Glob.Patterns) :
    (∀ directory place, t.entryAt? cwd directory = some (place, .directory) → t.Textual place →
      ∃ found : List (List String),
        (∀ texts, texts ∈ found ↔ Sought t ignore place texts) ∧
        (found.Pairwise fun a b => segments (String.intercalate "/" a) < segments (String.intercalate "/" b)) ∧
        ∀ root, root = directory ∨ root ∈ Path.spellings directory ∧ root.utf8ByteSize < 4096 →
          (collect t cwd ignore [root]).result = .ok (found.map (Input.below root))) ∧
    (∀ path place content, t.entryAt? cwd path = some (place, .file content) →
      ∃ name, Path.fileName? path = some name ∧
        (collect t cwd ignore [path]).result = .ok [{ path, relative := name }]) ∧
    (∀ paths, (collect t cwd ignore paths).result =
      (paths.mapM fun path => (collect t cwd ignore [path]).result).map List.flatten) ∧
    ∀ before path after, (∀ earlier ∈ before, t.Searchable cwd earlier) →
      (∀ place content, t.entryAt? cwd path ≠ some (place, .file content)) →
      (∀ place, t.entryAt? cwd path ≠ some (place, .directory)) →
      (collect t cwd ignore (before ++ path :: after)).result = .error (.inputNotFound path) := by
  refine ⟨fun directory place found textual => ⟨sought t ignore place, fun _ => mem_sought sound, ?_, ?_⟩, ?_, ?_, ?_⟩
  · refine (pairwise_sought t ignore place).imp_of_mem fun {a b} first second less => ?_
    rwa [((mem_sought sound).mp first).segments_eq sound, ((mem_sought sound).mp second).segments_eq sound]
  · intro root spelled
    rw [result_collect_singleton]
    rcases spelled with rfl | ⟨listed, short⟩
    · exact harvestPath_directory ignore sound found textual
    · exact harvestPath_directory ignore sound (entryAt?_spelling found listed short) textual
  · intro path place content found
    obtain ⟨name, named, result⟩ := harvestPath_file ignore found
    exact ⟨name, named, (result_collect_singleton t cwd ignore path).trans result⟩
  · intro paths
    simp only [result_collect_singleton]
    exact result_collect t cwd ignore paths
  · intro before path after searchable noFile noDirectory
    have lost : (harvestPath t cwd ignore path).result = .error (.inputNotFound path) := by
      rw [harvestPath_of_missing ignore noFile noDirectory]
      rfl
    obtain ⟨earlier, fine⟩ := exists_mapM_ok fun path listed => (searchable path listed).result sound ignore
    rw [result_collect, List.mapM_append, fine, List.mapM_cons, lost]
    rfl

/-- A directory `s` with the files `a.ts`, `a/b.ts`, `a/b.d.ts` and `c.md`, and a link to the first. -/
def neighbours : FileTree :=
  ⟨[(["s"].map Text.bytesOf, .directory), (["s", "a.ts"].map Text.bytesOf, .file .empty),
    (["s", "a"].map Text.bytesOf, .directory), (["s", "a", "b.ts"].map Text.bytesOf, .file .empty),
    (["s", "a", "b.d.ts"].map Text.bytesOf, .file .empty), (["s", "c.md"].map Text.bytesOf, .file .empty),
    (["s", "l.ts"].map Text.bytesOf, .link "a.ts")]⟩

theorem textual_of_entries {t : FileTree} (checked : ∀ x ∈ t.entries, ∀ n ∈ x.1, (Text.textOf? n).isSome = true)
    (place : Location) : t.Textual place := by
  intro below entry stands n member
  rcases mem_entries_of_get? stands with root | listed
  · rw [(List.append_eq_nil_iff.mp root).2] at member
    cases member
  · exact checked _ listed n (List.mem_append_right _ member)

/-- The files in `s` and in `a` are found, and what is missing is reported. -/
theorem collect_neighbours :
    neighbours.Sound ∧
    (∃ found : List (List String), (∀ texts, texts ∈ found ↔ Sought neighbours [] [Text.bytesOf "s"] texts) ∧
      ["a", "b.ts"] ∈ found ∧ ["a.ts"] ∈ found ∧ ["l.ts"] ∉ found ∧
      (collect neighbours [] [] ["s/."]).result = .ok (found.map (Input.below "s/."))) ∧
    (collect neighbours [] [] ["s/a.ts", "s", "gone", "s"]).result = .error (.inputNotFound "gone") := by
  have sound : neighbours.Sound := sound_of_entries (by decide +kernel)
  have textual : neighbours.Textual [Text.bytesOf "s"] := textual_of_entries (by decide +kernel) _
  have directory : neighbours.entryAt? [] "s" = some ([Text.bytesOf "s"], .directory) := by decide +kernel
  have file : neighbours.entryAt? [] "s/a.ts" = some (["s", "a.ts"].map Text.bytesOf, .file .empty) := by decide +kernel
  have gone : neighbours.entryAt? [] "gone" = none := by decide +kernel
  refine ⟨sound, ?_, ?_⟩
  · obtain ⟨found, all, _, spelled⟩ := (collect_result sound [] []).1 "s" _ directory textual
    refine ⟨found, all, (all _).mpr ⟨⟨.empty, by decide +kernel⟩, by decide, by decide⟩,
      (all _).mpr ⟨⟨.empty, by decide +kernel⟩, by decide, by decide⟩, fun listed => ?_,
      spelled "s/." (Or.inr ⟨by decide, by decide⟩)⟩
    obtain ⟨content, stands⟩ := ((all _).mp listed).stands
    have link : neighbours.get? ([Text.bytesOf "s"] ++ ["l.ts"].map Text.bytesOf) = some (.link "a.ts") := by decide +kernel
    rw [link] at stands
    cases stands
  · refine (collect_result sound [] []).2.2.2 ["s/a.ts", "s"] "gone" ["s"] (fun path listed => ?_) ?_ ?_
    · rcases List.mem_cons.mp listed with rfl | listed
      · exact Or.inl ⟨_, _, file⟩
      · rw [List.mem_singleton.mp listed]
        exact Or.inr ⟨_, directory, textual⟩
    · simp [gone]
    · simp [gone]

end Detype
